import PetClump.Matching.NoDuplicates
import PetClump.Friends.RelationList
import PetClump.Friending.RoomReady
import PetClump.Friending.Records
import PetClump.Friending.Messages
import PetClump.Chat.Listener
import PetClump.Chat.Messenger
import PetClump.SecretFile
import PetClump.Generator
import PetClump.MillerRabin
import PetClump.RoomId
import PetClump.Owners.OwnerSetting
import PetClump.LimitText
import PetClump.Pets.PhotoUrls
import PetClump.Pets.QuizAnswers
import PetClump.Matching.Coverage
import PetClump.Matching.MatchBest
import PetClump.Friends.FriendFragment
import PetClump.Pets.PhotoReferences
import PetClump.Friending.Failures
import PetClump.Library.PartialUpdate
import PetClump.Pets.Deletion
import PetClump.Library.RowMajor
import PetClump.Library.SwiftString
import PetClump.Owners.FreeSchedule
import PetClump.Owners.Privacy
import PetClump.Chat.Order
import PetClump.Matching.Percent
import PetClump.Friends.FriendHandler
import PetClump.ImageCache
import PetClump.Friends.FriendList
import PetClump.Pets.Questions
import PetClump.Chat.Conversation
import PetClump.Pets.QuizCards
import PetClump.Sha2
import PetClump.Matching.EndlessList
import PetClump.Owners.Welcome
import PetClump.Matching.MatchTable
import PetClump.CachedImage
