import PetClump.Library.PrimitiveRoot
import PetClump.PrimeUtil

/-! # Generators of both clients

What Android's generator test lets through, and how iOS's translation of it
differs: its factor loop is entered only for one, so no number is ever tested.
-/

namespace PetClump

open PrimeUtil

variable {isPrime : ℕ → Bool}

/-- A search returns the first number that passes its test. -/
theorem search_eq_some {test : ℕ → Bool} {i g : ℕ} : search test i = some g ↔
    i ≤ g ∧ g < 100000000 ∧ test g = true ∧ ∀ j, i ≤ j → j < g → test j = false := by
  rw [search]
  by_cases inside : i < 100000000
  · rw [if_pos inside]
    by_cases passes : test i = true
    · rw [if_pos passes, Option.some.injEq]
      constructor
      · rintro rfl
        exact ⟨le_rfl, inside, passes, fun j above below => by omega⟩
      · rintro ⟨above, _, _, first⟩
        by_contra other
        have rejected := first i le_rfl (by omega)
        rw [passes] at rejected
        cases rejected
    · rw [if_neg passes, search_eq_some]
      constructor
      · rintro ⟨above, inside, passes', first⟩
        refine ⟨by omega, inside, passes', fun j from_i below => ?_⟩
        by_cases here : j = i
        · exact here ▸ Bool.eq_false_iff.mpr passes
        · exact first j (by omega) below
      · rintro ⟨above, inside', passes', first⟩
        have later : i ≠ g := fun same => passes (same ▸ passes')
        exact ⟨by omega, inside', passes', fun j from_i below => first j (by omega) below⟩
  · rw [if_neg inside]
    constructor
    · nofun
    · rintro ⟨above, below, _⟩
      omega
termination_by 100000000 - i

/-- A search that meets a number that passes ends there or earlier. -/
theorem search_le {test : ℕ → Bool} {start i : ℕ} (above : start ≤ i) (below : i < 100000000)
    (passes : test i = true) : ∃ g ≤ i, search test start = some g := by
  have some_passes : ∃ g, start ≤ g ∧ test g = true := ⟨i, above, passes⟩
  classical
  obtain ⟨from_start, first⟩ := Nat.find_spec some_passes
  have least : Nat.find some_passes ≤ i := Nat.find_min' some_passes ⟨above, passes⟩
  refine ⟨Nat.find some_passes, least, search_eq_some.mpr ⟨from_start, by omega, first, ?_⟩⟩
  intro j from_j earlier
  exact Bool.eq_false_iff.mpr fun yes => Nat.find_min some_passes earlier ⟨from_j, yes⟩

section Android

/-- `g` leaves no trace of a proper subgroup at the prime factors that trial division finds. -/
def Passes (p g : ℕ) : Prop :=
  ∀ q, q.Prime → q ∣ p - 1 → Exposed (p - 1) q → g ^ ((p - 1) / q) % p ≠ 1

/-- A candidate that is let through without being a primitive root: a multiple of `p`, or a unit
that only the prime factors that are not found tell from a primitive root. -/
def FalseGenerator (p g : ℕ) : Prop := p ∣ g ∨ ¬ Generates g p ∧ Passes p g

theorem pow_mod_of_dvd {p g k : ℕ} (divides : p ∣ g) (positive : 0 < k) : g ^ k % p = 0 :=
  Nat.mod_eq_zero_of_dvd (divides.trans (dvd_pow_self g (by omega)))

theorem div_pos_of_dvd {p q : ℕ} (large : 1 < p) (divides : q ∣ p - 1) : 0 < (p - 1) / q :=
  Nat.div_pos (Nat.le_of_dvd (by omega) divides) (Nat.pos_of_dvd_of_pos divides (by omega))

/-- Above three, `p - 1` is an even composite number. -/
theorem pred_not_prime {p : ℕ} (prime : p.Prime) (large : 3 < p) : ¬ (p - 1).Prime := by
  intro pred
  have oddP := prime.eq_two_or_odd
  have oddPred := pred.eq_two_or_odd
  omega

theorem isPrimeRoot_iff (decides : Decides isPrime) {p : ℕ} (prime : p.Prime) (large : 3 < p) (g : ℕ) :
    isPrimeRoot isPrime g p = true ↔ Passes p g := by
  have composite := pred_not_prime prime large
  simp only [isPrimeRoot, List.all_eq_true, bne_iff_ne, modPow,
    mem_primeFactors decides composite (by omega : 1 < p - 1), Passes]
  constructor
  · intro h q primeQ divides exposed
    exact h q ⟨primeQ, divides, exposed⟩
  · rintro h q ⟨primeQ, divides, exposed⟩
    exact h q primeQ divides exposed

theorem isPrimeRoot_iff_or (decides : Decides isPrime) {p : ℕ} (prime : p.Prime) (large : 3 < p)
    (g : ℕ) : isPrimeRoot isPrime g p = true ↔ Generates g p ∨ FalseGenerator p g := by
  have : Fact p.Prime := ⟨prime⟩
  rw [isPrimeRoot_iff decides prime large]
  constructor
  · intro passes
    by_cases generates : Generates g p
    · exact .inl generates
    · exact .inr (.inr ⟨generates, passes⟩)
  · intro h q primeQ divides _
    cases h with
    | inl generates => exact (PrimitiveRoot.generates_iff generates.1).mp generates q primeQ divides
    | inr falsely =>
        cases falsely with
        | inl multiple =>
            rw [pow_mod_of_dvd multiple (div_pos_of_dvd prime.one_lt divides)]
            exact Nat.zero_ne_one
        | inr passes => exact passes.2 q primeQ divides ‹_›

theorem FalseGenerator.not_generates {p g : ℕ} (h : FalseGenerator p g) : ¬ Generates g p := by
  intro generates
  cases h with
  | inl multiple => exact generates.1 multiple
  | inr unit => exact unit.1 generates

/-- Modulo three only multiples of three are let through. -/
theorem isPrimeRoot_three (decides : Decides isPrime) (g : ℕ) :
    isPrimeRoot isPrime g 3 = true ↔ 3 ∣ g := by
  have powers : g ^ 2 % 3 = (g % 3) ^ 2 % 3 := Nat.pow_mod g 2 3
  have residue : g % 3 = 0 ∨ g % 3 = 1 ∨ g % 3 = 2 := by omega
  simp only [isPrimeRoot, primeFactors_two decides, modPow, Nat.reduceSub, List.all_cons,
    List.all_nil, Bool.and_true, Bool.and_eq_true, bne_iff_ne, Nat.reduceDiv, pow_one, powers,
    Nat.dvd_iff_mod_eq_zero]
  obtain zero | one | two := residue
  · simp [zero]
  · simp [one]
  · simp [two]

theorem search_three (decides : Decides isPrime) {start : ℕ} (bound : start < 50000) :
    ¬ ∀ g, search (isPrimeRoot isPrime · 3) start = some g → Generates g 3 := by
  intro claim
  have found : search (isPrimeRoot isPrime · 3) start = some (start + (3 - start % 3) % 3) := by
    rw [search_eq_some]
    refine ⟨by omega, by omega, (isPrimeRoot_three decides _).mpr (by omega), fun j above below => ?_⟩
    rw [Bool.eq_false_iff, ne_eq, isPrimeRoot_three decides]
    omega
  have generates := claim _ found
  exact generates.1 (by omega)

/-- The candidate that Android's search ends with is a primitive root, except modulo three, and
provided that every false generator from the start on comes after a primitive root. -/
theorem android_generates_iff (isPrime : ℕ → Bool) (decides : Decides isPrime) (p : ℕ)
    (prime : p.Prime) (odd : p ≠ 2) (start : ℕ) (bound : start < 50000) :
    (∀ g, search (isPrimeRoot isPrime · p) start = some g → Generates g p) ↔
      p ≠ 3 ∧ ∀ i, start ≤ i → i < 100000000 → FalseGenerator p i →
        ∃ j, start ≤ j ∧ j < i ∧ Generates j p := by
  have two := prime.two_le
  by_cases three : p = 3
  · subst three
    simp only [search_three decides bound, ne_eq, not_true_eq_false, false_and]
  · have large : 3 < p := by omega
    have passes := isPrimeRoot_iff_or decides prime large
    constructor
    · intro claim
      refine ⟨three, fun i above below falsely => ?_⟩
      have accepted := (passes i).mpr (.inr falsely)
      obtain ⟨g, least, found⟩ := @search_le (isPrimeRoot isPrime · p) start i above below accepted
      have generates := claim g found
      have from_start := (search_eq_some.mp found).1
      refine ⟨g, from_start, lt_of_le_of_ne least ?_, generates⟩
      rintro rfl
      exact falsely.not_generates generates
    · rintro ⟨_, late⟩ g found
      obtain ⟨above, below, accepted, first⟩ := search_eq_some.mp found
      cases (passes g).mp accepted with
      | inl generates => exact generates
      | inr falsely =>
          obtain ⟨j, from_j, below_j, generates⟩ := late g above below falsely
          have rejected := first j from_j below_j
          rw [(passes j).mpr (.inl generates)] at rejected
          cases rejected

theorem generates_two_five : Generates 2 5 := by
  refine ⟨by decide, fun r positive small => ?_⟩
  interval_cases r
  · exact ⟨0, rfl⟩
  · exact ⟨1, rfl⟩
  · exact ⟨3, rfl⟩
  · exact ⟨2, rfl⟩

theorem android_generates_from_two : ¬ ∃ g,
    search (isPrimeRoot (fun n => n == 1 || decide n.Prime) · 5) 2 = some g ∧ ¬ Generates g 5 := by
  rintro ⟨g, found, falsely⟩
  refine falsely ((android_generates_iff _ decides_prime 5 Nat.prime_five (by decide) 2 (by decide)).mpr
    ⟨by decide, fun i above _ falsely => ⟨2, le_rfl, lt_of_le_of_ne above ?_, generates_two_five⟩⟩ g found)
  intro same
  exact falsely.not_generates (same ▸ generates_two_five)

/-- Zero is drawn, let through, and generates nothing. -/
theorem zero_is_let_through :
    ¬ ∀ (isPrime : ℕ → Bool) (p start g : ℕ), (∀ n, 2 ≤ n → (isPrime n = true ↔ n.Prime)) →
      isPrime 1 = true → p.Prime → p ≠ 2 → start < 50000 →
      search (isPrimeRoot isPrime · p) start = some g → Generates g p := by
  intro claim
  have passes := (isPrimeRoot_iff_or decides_prime Nat.prime_five (by decide) 0).mpr
    (.inr (.inl (dvd_zero 5)))
  have found : search (isPrimeRoot (fun n => n == 1 || decide n.Prime) · 5) 0 = some 0 :=
    search_eq_some.mpr ⟨le_rfl, by decide, passes, fun j _ below => absurd below (by omega)⟩
  have generates := claim _ 5 0 0 decides_prime.correct decides_prime.one Nat.prime_five (by decide)
    (by decide) found
  exact generates.1 (dvd_zero 5)

end Android

section IOS

namespace IOS

variable (isPrime : ℕ → Bool)

/-- The outer loop of iOS's `primeFactors`, with what is left of its turns; its divisor stays two,
because the increment stands behind the loop. -/
def primeFactors : ℕ → ℕ → List ℕ → Option (List ℕ)
  | 0, n, factors => if n = 1 then none else some factors
  | rest + 1, n, factors =>
      if n = 1 then
        match divideOut isPrime 2 n factors with
        | .returned factors => some factors
        | .next n factors => primeFactors rest n factors
      else some factors

def isPrimeRoot (fuel g p : ℕ) : Option Bool :=
  (primeFactors isPrime fuel (p - 1) []).map fun factors =>
    factors.all fun factor => modPow g ((p - 1) / factor) p != 1

/-- The loop of iOS's `findPrimitiveRoot`, for a test that may not return. -/
def search (test : ℕ → Option Bool) (start : ℕ) : Option ℕ :=
  if start < 100000000 then
    match test start with
    | none => none
    | some true => some start
    | some false => search test (start + 1)
  else some 0
termination_by 100000000 - start

def findPrimitiveRoot (fuel p start : ℕ) : Option ℕ := search (isPrimeRoot isPrime fuel · p) start

variable {isPrime}

theorem primeFactors_of_ne_one {n : ℕ} (other : n ≠ 1) (fuel : ℕ) (factors : List ℕ) :
    primeFactors isPrime fuel n factors = some factors := by
  cases fuel with
  | zero => rw [primeFactors, if_neg other]
  | succ rest => rw [primeFactors, if_neg other]

/-- On one, the only number that enters the loop, it never ends. -/
theorem primeFactors_one (fuel : ℕ) (factors : List ℕ) :
    primeFactors isPrime fuel 1 factors = none := by
  induction fuel with
  | zero => rfl
  | succ rest ih =>
      have unchanged : divideOut isPrime 2 1 factors = .next 1 factors := by
        rw [divideOut, dif_neg (by omega)]
      rw [primeFactors, if_pos rfl, unchanged]
      exact ih

theorem isPrimeRoot_eq {p : ℕ} (large : 3 ≤ p) (fuel g : ℕ) : isPrimeRoot isPrime fuel g p = some true := by
  rw [isPrimeRoot, primeFactors_of_ne_one (by omega)]
  rfl

theorem findPrimitiveRoot_eq {p start : ℕ} (large : 3 ≤ p) (bound : start < 50000) (fuel : ℕ) :
    findPrimitiveRoot isPrime fuel p start = some start := by
  rw [findPrimitiveRoot, search, if_pos (by omega), isPrimeRoot_eq large]

end IOS

/-- Android's verdict by the prime factors that its trial division lists. -/
theorem isPrimeRoot_iff_peel {p : ℕ} (large : 3 ≤ p) (g : ℕ) : isPrimeRoot isPrime g p = true ↔
    ∀ f ∈ peel isPrime (p - 1) (p - 1).primeFactorsList, g ^ ((p - 1) / f) % p ≠ 1 := by
  simp only [isPrimeRoot, primeFactors_eq (by omega : 0 < p - 1), List.all_eq_true, bne_iff_ne, modPow]

theorem findPrimitiveRoot_of_accepted {p start : ℕ} (bound : start < 50000)
    (accepted : isPrimeRoot isPrime start p = true) : findPrimitiveRoot isPrime p start = start := by
  have found : search (isPrimeRoot isPrime · p) start = some start :=
    search_eq_some.mpr ⟨le_rfl, by omega, accepted, fun j above below => by omega⟩
  rw [findPrimitiveRoot, found]
  rfl

/-- Both clients judge a number alike, and end a search that starts with it alike. -/
def ClientsAgree (isPrime : ℕ → Bool) (p g : ℕ) : Prop :=
  (∃ fuel, IOS.isPrimeRoot isPrime fuel g p = some (isPrimeRoot isPrime g p)) ∧
    (g < 50000 → ∃ fuel, IOS.findPrimitiveRoot isPrime fuel p g = some (findPrimitiveRoot isPrime p g))

/-- iOS lets every number through, so the clients agree on those that Android accepts. -/
theorem clientsAgree_iff_accepted {p : ℕ} (large : 3 ≤ p) (g : ℕ) :
    ClientsAgree isPrime p g ↔ isPrimeRoot isPrime g p = true := by
  constructor
  · rintro ⟨⟨fuel, same⟩, _⟩
    rw [IOS.isPrimeRoot_eq large] at same
    exact (Option.some.inj same).symm
  · intro accepted
    refine ⟨⟨0, ?_⟩, fun bound => ⟨0, ?_⟩⟩
    · rw [IOS.isPrimeRoot_eq large, accepted]
    · rw [IOS.findPrimitiveRoot_eq large bound, findPrimitiveRoot_of_accepted bound accepted]

/-- Both clients judge a number alike, and start their searches alike, when none of the factors
that Android lists shows that the number generates too little. -/
theorem clients_agree_iff (isPrime : ℕ → Bool) (p : ℕ) (large : 3 ≤ p) (g : ℕ) :
    ((∃ fuel, IOS.isPrimeRoot isPrime fuel g p = some (isPrimeRoot isPrime g p)) ∧
      (g < 50000 → ∃ fuel,
        IOS.findPrimitiveRoot isPrime fuel p g = some (findPrimitiveRoot isPrime p g))) ↔
      ∀ f ∈ peel isPrime (p - 1) (p - 1).primeFactorsList, g ^ ((p - 1) / f) % p ≠ 1 :=
  (clientsAgree_iff_accepted large g).trans (isPrimeRoot_iff_peel large g)

theorem clients_agree_on_two_modulo_five :
    ((∃ fuel, IOS.isPrimeRoot (fun n => n == 1 || decide n.Prime) fuel 2 5 =
        some (isPrimeRoot (fun n => n == 1 || decide n.Prime) 2 5)) ∧
      (2 < 50000 → ∃ fuel, IOS.findPrimitiveRoot (fun n => n == 1 || decide n.Prime) fuel 5 2 =
        some (findPrimitiveRoot (fun n => n == 1 || decide n.Prime) 5 2))) := by
  refine (clients_agree_iff _ 5 (by decide) 2).mpr ?_
  rw [← isPrimeRoot_iff_peel (by decide), isPrimeRoot_iff_or decides_prime Nat.prime_five (by decide)]
  exact .inl generates_two_five

/-- With a test that knows the primes, the clients agree above three on the numbers that no prime factor
of `p - 1` exposes. -/
theorem clientsAgree_iff_passes (decides : Decides isPrime) {p : ℕ} (prime : p.Prime) (large : 3 < p) (g : ℕ) :
    ClientsAgree isPrime p g ↔ Passes p g :=
  (clientsAgree_iff_accepted large.le g).trans (isPrimeRoot_iff decides prime large g)

/-- Modulo three they agree on the multiples of three. -/
theorem clientsAgree_three (decides : Decides isPrime) (g : ℕ) : ClientsAgree isPrime 3 g ↔ 3 ∣ g :=
  (clientsAgree_iff_accepted le_rfl g).trans (isPrimeRoot_three decides g)

/-- Android rejects one and moves on; iOS takes it. -/
theorem one_is_judged_differently :
    ¬ ∀ (isPrime : ℕ → Bool) (p g : ℕ), p.Prime → 3 ≤ p →
      ((∃ fuel, IOS.isPrimeRoot isPrime fuel g p = some (isPrimeRoot isPrime g p)) ∧
        ∀ start, start < 50000 → ∃ fuel,
          IOS.findPrimitiveRoot isPrime fuel p start = some (findPrimitiveRoot isPrime p start)) := by
  intro claim
  obtain ⟨⟨fuel, same⟩, _⟩ :=
    claim (fun n => n == 1 || decide n.Prime) 5 1 Nat.prime_five (by decide)
  rw [IOS.isPrimeRoot_eq (by decide), Option.some.injEq, eq_comm,
    isPrimeRoot_iff decides_prime Nat.prime_five (by decide)] at same
  have exposed : Exposed (5 - 1) 2 := .inl (by decide)
  exact same 2 Nat.prime_two (by decide) exposed (by decide)

end IOS

end PetClump
