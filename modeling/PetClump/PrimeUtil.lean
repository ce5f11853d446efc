import Mathlib.Data.Nat.Factors
import Mathlib.NumberTheory.Padics.PadicVal.Defs
import PetClump.Library.ModPow

/-! # Prime utilities of the Android key exchanger

`PrimeUtil` with its primality test as a parameter where the loops use it. Its
`primeFactors` divides by 2, 3, … below 10000 and stops early once the cofactor
passes the test; the specification says which factors that exposes.
-/

namespace PetClump.PrimeUtil

section MillerRabin

/-- The loop of `miller_rabin_pass`: compare with `n - 1`, square, and compare once more at the end. -/
def squarings (n : ℕ) : ℕ → ℕ → Bool
  | 0, power => power == n - 1
  | rest + 1, power => power == n - 1 || squarings n rest (power * power % n)

def millerRabinPass (a n : ℕ) : Bool :=
  let d := n - 1
  -- getLowestSetBit, which is -1 on zero
  let s : ℤ := if d = 0 then -1 else padicValNat 2 d
  let power := modPow a (d >>> s.toNat) n
  power == 1 || squarings n (s - 1).toNat power

/-- `bases` are the numbers that the test draws. -/
def millerRabin (bases : List ℕ) (n : ℕ) : Bool := bases.all (millerRabinPass · n)

/-- One passes the test whatever is drawn. -/
theorem millerRabin_one (bases : List ℕ) : millerRabin bases 1 = true := by
  simp only [millerRabin, List.all_eq_true]
  intro a _
  simp [millerRabinPass, squarings, modPow]

end MillerRabin

inductive Divided where
  | returned (factors : List ℕ)
  | next (n : ℕ) (factors : List ℕ)

section Loops

variable (isPrime : ℕ → Bool)

/-- The inner loop of `primeFactors`; its guard on `i` and `n` holds whenever it is entered. -/
def divideOut (i n : ℕ) (factors : List ℕ) : Divided :=
  if _guard : 2 ≤ i ∧ 0 < n ∧ n % i = 0 then
    if isPrime (n / i) then .returned (factors ++ [i, n / i])
    else divideOut i (n / i) (factors ++ [i])
  else .next n factors
termination_by n
decreasing_by exact Nat.div_lt_self _guard.2.1 _guard.1

/-- The outer loop, from divisor `i` on. -/
def trialDivide (i : ℕ) (low : i < 10000) (n : ℕ) (factors : List ℕ) : List ℕ :=
  if n = 1 then factors
  else
    match divideOut isPrime i n factors with
    | .returned factors => factors
    | .next n factors =>
        if last : i + 1 = 10000 then factors else trialDivide (i + 1) (by omega) n factors
termination_by 10000 - i

def primeFactors (number : ℕ) : List ℕ := trialDivide isPrime 2 (by omega) number []

def isPrimeRoot (g p : ℕ) : Bool :=
  (primeFactors isPrime (p - 1)).all fun factor => modPow g ((p - 1) / factor) p != 1

/-- The loop of `findPrimitiveRoot`; `none` when it ends without a candidate. -/
def search (test : ℕ → Bool) (i : ℕ) : Option ℕ :=
  if i < 100000000 then if test i then some i else search test (i + 1) else none
termination_by 100000000 - i

/-- `start` is the random number below 50000. -/
def findPrimitiveRoot (p start : ℕ) : ℕ := (search (isPrimeRoot isPrime · p) start).getD 0

end Loops

/-- Prime factors below 10000 in ascending order, up to the first whose cofactor passes the test,
and that cofactor. -/
def peel (isPrime : ℕ → Bool) : ℕ → List ℕ → List ℕ
  | _, [] => []
  | n, q :: rest =>
      if q < 10000 then
        if isPrime (n / q) then [q, n / q] else q :: peel isPrime (n / q) rest
      else []

variable {isPrime : ℕ → Bool}

/-- No prime below `i` divides `n`. -/
def Rough (i n : ℕ) : Prop := ∀ q, q.Prime → q ∣ n → i ≤ q

theorem primeFactorsList_of_rough {i n : ℕ} (two : 2 ≤ i) (rough : Rough i n) (large : 1 < n)
    (divides : i ∣ n) : n.primeFactorsList = i :: (n / i).primeFactorsList := by
  have least : n.minFac = i := by
    apply le_antisymm (Nat.minFac_le_of_dvd two divides)
    exact rough _ (Nat.minFac_prime (by omega)) (Nat.minFac_dvd n)
  obtain ⟨k, rfl⟩ : ∃ k, n = k + 2 := ⟨n - 2, by omega⟩
  rw [Nat.primeFactorsList_add_two, least]

theorem peel_of_rough {n : ℕ} (rough : Rough 10000 n) :
    peel isPrime n n.primeFactorsList = [] := by
  cases factors : n.primeFactorsList with
  | nil => rfl
  | cons q rest =>
      have mem : q ∈ n.primeFactorsList := factors ▸ List.mem_cons_self
      have large := rough q (Nat.prime_of_mem_primeFactorsList mem) (Nat.dvd_of_mem_primeFactorsList mem)
      rw [peel, if_neg (by omega)]

/-- What dividing out one divisor does, against the list of all prime factors. -/
theorem divideOut_spec {i n : ℕ} (factors : List ℕ) (two : 2 ≤ i) (low : i < 10000) (positive : 0 < n)
    (rough : Rough i n) :
    divideOut isPrime i n factors = .returned (factors ++ peel isPrime n n.primeFactorsList) ∨
      ∃ m found, divideOut isPrime i n factors = .next m (factors ++ found) ∧ 0 < m ∧
        Rough (i + 1) m ∧
        peel isPrime n n.primeFactorsList = found ++ peel isPrime m m.primeFactorsList := by
  induction n using Nat.strongRecOn generalizing factors with
  | ind n ih =>
      by_cases divides : i ∣ n
      · have guard : 2 ≤ i ∧ 0 < n ∧ n % i = 0 := ⟨two, positive, Nat.mod_eq_zero_of_dvd divides⟩
        have large : 1 < n := by
          have bound := Nat.le_of_dvd positive divides
          omega
        have list := primeFactorsList_of_rough two rough large divides
        rw [divideOut, dif_pos guard, list, peel, if_pos low]
        by_cases stop : isPrime (n / i) = true
        · exact .inl (by rw [if_pos stop, if_pos stop])
        · rw [if_neg stop, if_neg stop]
          have rest : Rough i (n / i) := fun q prime dvd =>
            rough q prime (dvd.trans (Nat.div_dvd_of_dvd divides))
          have less := Nat.div_lt_self positive (show 1 < i by omega)
          have quotient := Nat.div_pos (Nat.le_of_dvd positive divides) (by omega : 0 < i)
          cases ih (n / i) less (factors ++ [i]) quotient rest with
          | inl returned => exact .inl (by rw [returned]; simp)
          | inr next =>
              obtain ⟨m, found, next, positive, rough, split⟩ := next
              exact .inr ⟨m, i :: found, by rw [next]; simp, positive, rough, by rw [split]; rfl⟩
      · have guard : ¬ (2 ≤ i ∧ 0 < n ∧ n % i = 0) :=
          fun h => divides (Nat.dvd_of_mod_eq_zero h.2.2)
        refine .inr ⟨n, [], by rw [divideOut, dif_neg guard, List.append_nil], positive, ?_, rfl⟩
        intro q prime dvd
        have bound := rough q prime dvd
        have other : q ≠ i := fun same => divides (same ▸ dvd)
        omega

theorem trialDivide_spec {i n : ℕ} (factors : List ℕ) (two : 2 ≤ i) (low : i < 10000)
    (positive : 0 < n) (rough : Rough i n) :
    trialDivide isPrime i low n factors = factors ++ peel isPrime n n.primeFactorsList := by
  rw [trialDivide]
  by_cases one : n = 1
  · subst one
    simp [peel]
  · rw [if_neg one]
    cases @divideOut_spec isPrime i n factors two low positive rough with
    | inl returned => rw [returned]
    | inr next =>
        obtain ⟨m, found, next, positive, rough, split⟩ := next
        rw [next, split]
        dsimp only
        by_cases last : i + 1 = 10000
        · rw [dif_pos last, peel_of_rough (last ▸ rough), List.append_nil]
        · rw [dif_neg last, trialDivide_spec (factors ++ found) (by omega) (by omega) positive rough,
            List.append_assoc]
termination_by 10000 - i

theorem primeFactors_eq {n : ℕ} (positive : 0 < n) :
    primeFactors isPrime n = peel isPrime n n.primeFactorsList := by
  have rough : Rough 2 n := fun q prime _ => prime.two_le
  exact trialDivide_spec [] le_rfl (by omega) positive rough

/-- A prime factor that trial division finds: a small one, or the only large one. -/
def Exposed (n q : ℕ) : Prop :=
  q < 10000 ∨ n.primeFactorsList.countP (10000 ≤ ·) ≤ 1

/-- What `isPrime` answers: rightly from two on, and yes on one. -/
structure Decides (isPrime : ℕ → Bool) : Prop where
  correct : ∀ n, 2 ≤ n → (isPrime n = true ↔ n.Prime)
  one : isPrime 1 = true

theorem decides_prime : Decides (fun n => n == 1 || decide n.Prime) where
  correct n large := by
    have other : n ≠ 1 := by omega
    simp [other]
  one := rfl

theorem two_le_prod {L : List ℕ} (primes : ∀ r ∈ L, r.Prime) (nonempty : L ≠ []) : 2 ≤ L.prod := by
  cases L with
  | nil => exact absurd rfl nonempty
  | cons a rest =>
      have first := (primes a List.mem_cons_self).two_le
      have positive : 0 < rest.prod := by
        apply Nat.pos_of_ne_zero
        apply List.prod_ne_zero
        intro zero
        exact Nat.not_prime_zero (primes 0 (List.mem_cons_of_mem a zero))
      rw [List.prod_cons]
      exact first.trans (Nat.le_mul_of_pos_right a positive)

theorem prod_not_prime {L : List ℕ} (primes : ∀ r ∈ L, r.Prime) (long : 2 ≤ L.length) :
    ¬ L.prod.Prime := by
  cases L with
  | nil => simp at long
  | cons a rest =>
      have nonempty : rest ≠ [] := by
        rintro rfl
        simp at long
      have others := two_le_prod (fun r mem => primes r (List.mem_cons_of_mem a mem)) nonempty
      rw [List.prod_cons]
      exact Nat.not_prime_mul (primes a List.mem_cons_self).ne_one (by omega)

/-- In a sorted list that starts with a large number all are large. -/
theorem countP_large {a : ℕ} {rest : List ℕ} (large : ¬ a < 10000) (least : ∀ r ∈ rest, a ≤ r) :
    (a :: rest).countP (10000 ≤ ·) = (a :: rest).length := by
  rw [List.countP_eq_length]
  intro r mem
  cases List.mem_cons.mp mem with
  | inl head => simpa [head] using large
  | inr tail =>
      have above := least r tail
      simp only [decide_eq_true_eq]
      omega

/-- The divisors found in a sorted list of at least two primes. -/
theorem mem_peel (decides : Decides isPrime) {q : ℕ} {L : List ℕ} (primes : ∀ r ∈ L, r.Prime)
    (sorted : L.Pairwise (· ≤ ·)) (long : 2 ≤ L.length) :
    q ∈ peel isPrime L.prod L ↔ q ∈ L ∧ (q < 10000 ∨ L.countP (10000 ≤ ·) ≤ 1) := by
  induction L with
  | nil => simp at long
  | cons a rest ih =>
      have prime := primes a List.mem_cons_self
      have others : ∀ r ∈ rest, r.Prime := fun r mem => primes r (List.mem_cons_of_mem a mem)
      obtain ⟨least, sorted⟩ := List.pairwise_cons.mp sorted
      have cofactor : (a :: rest).prod / a = rest.prod := by
        rw [List.prod_cons, Nat.mul_div_cancel_left _ prime.pos]
      rw [peel, cofactor]
      by_cases small : a < 10000
      · have count : (a :: rest).countP (10000 ≤ ·) = rest.countP (10000 ≤ ·) :=
          List.countP_cons_of_neg (by simpa using small)
        rw [if_pos small, count]
        by_cases more : 2 ≤ rest.length
        · have two := two_le_prod others (List.ne_nil_of_length_pos (by omega))
          have continues : isPrime rest.prod ≠ true :=
            fun yes => prod_not_prime others more ((decides.correct _ two).mp yes)
          rw [if_neg continues, List.mem_cons, ih others sorted more, List.mem_cons]
          constructor
          · intro found
            cases found with
            | inl first => exact ⟨.inl first, .inl (first ▸ small)⟩
            | inr later => exact ⟨.inr later.1, later.2⟩
          · rintro ⟨mem, exposed⟩
            exact mem.imp_right fun later => ⟨later, exposed⟩
        · obtain ⟨b, rfl⟩ : ∃ b, rest = [b] := by
            rw [← List.length_eq_one_iff]
            simp only [List.length_cons] at long
            omega
          have primeB := others b List.mem_cons_self
          have last := (decides.correct b primeB.two_le).mpr primeB
          have few : [b].countP (10000 ≤ ·) ≤ 1 := List.countP_le_length
          simp only [List.prod_singleton, last, if_true, few, or_true, and_true]
      · rw [if_neg small]
        have all := countP_large small least
        simp only [List.not_mem_nil, false_iff, not_and, not_or, all]
        intro mem
        have large := List.countP_eq_length.mp all q mem
        simp only [decide_eq_true_eq] at large
        omega

theorem mem_primeFactors (decides : Decides isPrime) {n q : ℕ} (composite : ¬ n.Prime) (large : 1 < n) :
    q ∈ primeFactors isPrime n ↔ q.Prime ∧ q ∣ n ∧ Exposed n q := by
  have product := Nat.prod_primeFactorsList (show n ≠ 0 by omega)
  have long : 2 ≤ n.primeFactorsList.length := by
    cases factors : n.primeFactorsList with
    | nil =>
        rw [factors, List.prod_nil] at product
        omega
    | cons r rest =>
        cases rest with
        | cons => simp
        | nil =>
            rw [factors, List.prod_singleton] at product
            have mem : r ∈ n.primeFactorsList := factors ▸ List.mem_singleton_self r
            exact absurd (product ▸ Nat.prime_of_mem_primeFactorsList mem) composite
  have peeled := mem_peel (q := q) decides (fun r => Nat.prime_of_mem_primeFactorsList)
    (Nat.primeFactorsList_sorted n).pairwise long
  rw [primeFactors_eq (by omega)]
  rw [product] at peeled
  rw [peeled, Nat.mem_primeFactorsList (by omega), and_assoc]
  rfl

theorem prod_peel_dvd {L : List ℕ} (primes : ∀ r ∈ L, r.Prime) : (peel isPrime L.prod L).prod ∣ L.prod := by
  induction L with
  | nil => simp [peel]
  | cons a rest ih =>
      have positive := (primes a List.mem_cons_self).pos
      have divides := ih fun r mem => primes r (List.mem_cons_of_mem a mem)
      rw [peel, List.prod_cons, Nat.mul_div_cancel_left _ positive]
      by_cases small : a < 10000
      · rw [if_pos small]
        by_cases stop : isPrime rest.prod = true
        · simp [stop]
        · rw [if_neg stop, List.prod_cons]
          exact mul_dvd_mul_left a divides
      · simp [small]

/-- A list of prime factors that misses no small one. -/
structure ListsPrimeFactors (number : ℕ) (factors : List ℕ) : Prop where
  prime : ∀ q ∈ factors, q.Prime ∧ q ∣ number
  small : ∀ q, q.Prime → q ∣ number → q < 10000 → q ∈ factors
  product : factors.prod ∣ number

/-- The first divisor of a small prime is itself, and the cofactor one counts as prime. -/
theorem primeFactors_prime (decides : Decides isPrime) {p : ℕ} (prime : p.Prime) :
    primeFactors isPrime p = if p < 10000 then [p, 1] else [] := by
  rw [primeFactors_eq prime.pos, Nat.primeFactorsList_prime prime]
  simp [peel, Nat.div_self prime.pos, decides.one]

theorem primeFactors_listed (isPrime : ℕ → Bool) (decides : Decides isPrime) (number : ℕ)
    (large : 2 ≤ number) :
    ListsPrimeFactors number (primeFactors isPrime number) ↔ ¬ (number.Prime ∧ number < 10000) := by
  by_cases prime : number.Prime
  · rw [primeFactors_prime decides prime]
    by_cases small : number < 10000
    · rw [if_pos small]
      constructor
      · intro listed
        exact absurd (listed.prime 1 (by simp)).1 Nat.not_prime_one
      · intro outside
        exact absurd ⟨prime, small⟩ outside
    · rw [if_neg small]
      simp only [prime, small, and_false, not_false_eq_true, iff_true]
      constructor
      · simp
      · intro q primeQ divides below
        rw [(Nat.prime_dvd_prime_iff_eq primeQ prime).mp divides] at below
        exact absurd below small
      · exact one_dvd number
  · simp only [prime, false_and, not_false_eq_true, iff_true]
    have product := Nat.prod_primeFactorsList (show number ≠ 0 by omega)
    constructor
    · intro q mem
      obtain ⟨primeQ, divides, -⟩ := (mem_primeFactors decides prime large).mp mem
      exact ⟨primeQ, divides⟩
    · intro q primeQ divides below
      exact (mem_primeFactors decides prime large).mpr ⟨primeQ, divides, .inl below⟩
    · have divides := @prod_peel_dvd isPrime number.primeFactorsList fun r => Nat.prime_of_mem_primeFactorsList
      rwa [product, ← primeFactors_eq (by omega)] at divides

theorem primeFactors_listed_twelve :
    ListsPrimeFactors 12 (primeFactors (fun n => n == 1 || decide n.Prime) 12) ↔
      ¬ (Nat.Prime 12 ∧ 12 < 10000) :=
  primeFactors_listed _ decides_prime 12 (by decide)

/-- Seven is listed with one beside it. -/
theorem primeFactors_lists_one : ¬ ∀ isPrime, Decides isPrime → ∀ number, 2 ≤ number →
    ListsPrimeFactors number (primeFactors isPrime number) := by
  intro claim
  have listed := claim _ decides_prime 7 (by decide)
  rw [primeFactors_prime decides_prime Nat.prime_seven] at listed
  exact Nat.not_prime_one (listed.prime 1 (by decide)).1

/-- Two is the one even number whose cofactor is one, and one counts as prime. -/
theorem primeFactors_two (decides : Decides isPrime) : primeFactors isPrime 2 = [2, 1] := by
  rw [primeFactors_prime decides Nat.prime_two]
  rfl

end PetClump.PrimeUtil
