import PetClump.Friending.Failures

/-! # The friend handler on iOS

A handler keeps the first pending value that it reads and answers every later question
from it. Its three operations write to the record and leave what it keeps alone.
-/

namespace PetClump.Handler

open Runs

inductive Query where
  | isPending
  | isSending
  | isReceiving
  | isFriending
  | isBlocking
  | shouldDisableAddFriendButton
  deriving Repr, DecidableEq

/-- Whether the `switch` of a query calls `ifTrue` -/
def Query.isTrue : Query → String → Bool
  | .isPending, myPending => myPending = "sending" || myPending = "receiving"
  | .isSending, myPending => myPending = "sending"
  | .isReceiving, myPending => myPending = "receiving"
  | .isFriending, myPending => myPending = "friending"
  | .isBlocking, myPending => myPending = "blocking"
  | .shouldDisableAddFriendButton, myPending => !(myPending = "")

/-- What `setData` and `delete` leave in the pet's own record -/
def myRecord : Kind → Option Data
  | .add => some (Data.empty.put "pending" "sending")
  | .accept => some (Data.empty.put "pending" "friending")
  | .reject => none

/-- The pending value in a record; a record without one counts as no status. -/
def pending (record : Option Data) : String := (record.bind fun document => document "pending").getD ""

structure FriendHandler where
  record : Option Data
  myPending : Option String

/-- `getMyPending`; a read that fails is taken for a missing record. -/
def FriendHandler.getMyPending (s : FriendHandler) (fails : Bool) : FriendHandler :=
  match s.myPending with
  | some _ => s
  | none =>
      match if fails then none else s.record with
      | some document => { s with myPending := some ((document "pending").getD "") }
      | none => { s with myPending := some "" }

/-- A call on the handler. The next one is made when it is done. -/
inductive Call where
  | operation (kind : Kind)
  | query (query : Query) (fails : Bool)
  deriving Repr, DecidableEq

def step (s : FriendHandler) : Call → Option FriendHandler
  | .operation kind => some { s with record := myRecord kind }
  | .query _ fails => some (s.getMyPending fails)

/-- A query takes the branch of the value that is stored now. -/
def Right (s : FriendHandler) : Call → Prop
  | .operation _ => True
  | .query query fails =>
      query.isTrue ((s.getMyPending fails).myPending.getD "") = query.isTrue (pending s.record)

instance (s : FriendHandler) : ∀ call, Decidable (Right s call)
  | .operation _ => .isTrue trivial
  | .query _ _ => inferInstanceAs (Decidable (_ = _))

/-- The record after some calls -/
def stored (record : Option Data) : List Call → Option Data
  | [] => record
  | .operation kind :: calls => stored (myRecord kind) calls
  | .query _ _ :: calls => stored record calls

/-- The value that the first query reads -/
def firstRead (record : Option Data) : List Call → Option String
  | [] => none
  | .operation kind :: calls => firstRead (myRecord kind) calls
  | .query _ fails :: _ => some (if fails then "" else pending record)

theorem getMyPending_eq (s : FriendHandler) (fails : Bool) :
    s.getMyPending fails =
      ⟨s.record, some (s.myPending.getD (if fails then "" else pending s.record))⟩ := by
  obtain ⟨record, myPending⟩ := s
  cases myPending with
  | some kept => rfl
  | none => cases fails <;> cases record <;> rfl

/-- The handler keeps what the first query read. -/
theorem run_eq (s : FriendHandler) (calls : List Call) :
    run step s calls = some ⟨stored s.record calls, s.myPending.or (firstRead s.record calls)⟩ := by
  induction calls generalizing s with
  | nil => simp [stored, firstRead]
  | cons call calls ih =>
      cases call with
      | operation kind => exact ih _
      | query query fails =>
          simp only [run, step, Option.bind_some, getMyPending_eq, ih, stored, firstRead]
          cases s.myPending <;> rfl

theorem firstRead_concat (record : Option Data) (calls : List Call) (query : Query) (fails : Bool) :
    firstRead record (calls ++ [.query query fails]) =
      some ((firstRead record calls).getD (if fails then "" else pending (stored record calls))) := by
  induction calls generalizing record with
  | nil => rfl
  | cons call calls ih =>
      cases call with
      | operation kind => exact ih _
      | query query fails => rfl

/-- Every query is answered as the stored value has it, exactly when it has the same
answer for the value that was stored when the handler was first asked. -/
theorem queries_right_iff (record : Option Data) (calls : List Call) :
    Meets step Right ⟨record, none⟩ calls ↔
      ∀ before query fails after, calls = before ++ .query query fails :: after →
        query.isTrue ((firstRead record (before ++ [.query query fails])).getD "") =
          query.isTrue (pending (stored record before)) := by
  have reached (before : List Call) : run step ⟨record, none⟩ before =
      some ⟨stored record before, firstRead record before⟩ := by simpa using run_eq ⟨record, none⟩ before
  rw [meets_iff_splits]
  constructor
  · intro right before query fails after split
    have here : query.isTrue _ = _ := right before (.query query fails) after split _ _ (reached before) rfl
    rw [getMyPending_eq] at here
    rw [firstRead_concat]
    exact here
  · intro same before call after split t t' ran _
    obtain rfl := Option.some.inj ((reached before).symm.trans ran)
    cases call with
    | operation kind => trivial
    | query query fails =>
        have here := same before query fails after split
        rw [firstRead_concat] at here
        rw [Right, getMyPending_eq]
        exact here

/-- A request goes out, and the handler that was asked before it still denies it. -/
theorem not_right_after_addFriend : ¬ Meets step Right ⟨none, none⟩
    [.query .isSending false, .operation .add, .query .isSending false] := by decide

/-- The text of a status in a record -/
def text : Option Status → String
  | some .sending => "sending"
  | some .receiving => "receiving"
  | some .friending => "friending"
  | some .blocking => "blocking"
  | none => ""

/-- The operations leave in the own record what they leave there between two pets, once
all their writes have landed. -/
theorem pending_operate {pair : Pair} {x : Side} {s : State} (client : pair.client x = .ios)
    (quiet : s.queue x = [] ∧ s.waiting x = []) (kind : Kind) (primes : PublicPrimes) (random : ℕ) :
    text ((operate pair x kind primes random (fun _ => false) s).docs.record x) = pending (myRecord kind) := by
  rw [(carriedOut_ios random _ client quiet kind).complete_record]
  cases kind <;> simp [Operation.leaves, text, pending, myRecord, Data.put]

end PetClump.Handler
