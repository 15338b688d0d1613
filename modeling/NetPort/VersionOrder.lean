import Mathlib.Order.PiLex
import NetPort.ClientReleases

/-! The order of client versions: `compareVersions` over all strings, and over dotted decimals
against the lexicographic order of their components. -/
namespace VersionOrder

open Doubles ClientReleases
open Double (lt)

/-- The part of a version at a position; there are zeros after the last one. -/
def partAt (version : String) (i : ℕ) : Double := Double.orZero (versionParts version)[i]?

def Settled (a b : String) (i : ℕ) : Prop := partAt a i = partAt b i ∧ (partAt a i).isFinite

structure Decides (a b : String) (i : ℕ) : Prop where
  before : ∀ j < i, Settled a b j
  here : ¬Settled a b i

def Same (a b : String) : Prop := ∀ i, Settled a b i

def Precedes (a b : String) : Prop := ∃ i, Decides a b i ∧ lt (partAt a i) (partAt b i)

def SharedInfinity (a b : String) : Prop := ∃ i, Decides a b i ∧ partAt a i = partAt b i

section Loop

variable {a b c : String} {i j : ℕ}

theorem partAt_ne_nan (a : String) (i : ℕ) : partAt a i ≠ .nan := Double.orZero_ne_nan _

theorem difference_sign : (lt (Double.sub (partAt a i) (partAt b i)) Double.zero ↔
      lt (partAt a i) (partAt b i)) ∧
    (Double.sub (partAt a i) (partAt b i) = Double.zero ↔ Settled a b i) :=
  Double.sub_sign (partAt_ne_nan a i) (partAt_ne_nan b i)

instance : Decidable (Settled a b i) := inferInstanceAs (Decidable (_ ∧ _))

theorem compareParts_eq (positions : List ℕ) :
    compareParts (versionParts a) (versionParts b) positions =
      match positions.find? fun i => ¬Settled a b i with
      | none => 0
      | some i => if lt (partAt a i) (partAt b i) then -1 else 1 := by
  induction positions with
  | nil => rfl
  | cons i rest ih =>
    have sign := @difference_sign a b i
    rw [compareParts, List.find?_cons]
    change (if Double.sub (partAt a i) (partAt b i) ≠ Double.zero then
      if lt (Double.sub (partAt a i) (partAt b i)) Double.zero then (-1 : ℤ) else 1 else _) = _
    by_cases settled : Settled a b i
    · rw [if_neg (not_not.2 (sign.2.2 settled)), ih, decide_eq_false (not_not.2 settled)]
    · rw [if_pos (settled ∘ sign.2.1), decide_eq_true settled]
      simp only [sign.1]

theorem settled_of_length (left : (versionParts a).length ≤ i)
    (right : (versionParts b).length ≤ i) : Settled a b i := by
  unfold Settled partAt
  rw [List.getElem?_eq_none left, List.getElem?_eq_none right]
  exact ⟨rfl, rfl⟩

/-- One of the four ways in which the loop ends, and its result. -/
theorem compareVersions_cases (a b : String) :
    (Same a b ∧ compareVersions a b = 0) ∨ (Precedes a b ∧ compareVersions a b = -1) ∨
      (∃ i, Decides a b i ∧ ¬lt (partAt a i) (partAt b i)) ∧ compareVersions a b = 1 := by
  rw [compareVersions, compareParts_eq]
  cases found : (List.range (max (versionParts a).length (versionParts b).length)).find?
      fun i => decide ¬Settled a b i with
  | none =>
    refine .inl ⟨fun i => ?_, rfl⟩
    by_cases inside : i < max (versionParts a).length (versionParts b).length
    · have := List.find?_range_eq_none.1 found i inside
      simpa using this
    · exact settled_of_length (by omega) (by omega)
  | some i =>
    obtain ⟨unsettled, -, before⟩ := List.find?_range_eq_some.1 found
    have decides : Decides a b i :=
      ⟨fun j early => by simpa using before j early, of_decide_eq_true unsettled⟩
    dsimp only
    split
    · rename_i less
      exact .inr (.inl ⟨⟨i, decides, less⟩, rfl⟩)
    · rename_i not_less
      exact .inr (.inr ⟨⟨i, decides, not_less⟩, rfl⟩)

theorem Decides.unique (first : Decides a b i) (first' : Decides a b j) : i = j := by
  rcases Nat.lt_trichotomy i j with early | same | late
  · exact absurd (first'.before i early) first.here
  · exact same
  · exact absurd (first.before j late) first'.here

theorem Settled.symm (settled : Settled a b i) : Settled b a i :=
  ⟨settled.1.symm, settled.1 ▸ settled.2⟩

theorem Same.symm (same : Same a b) : Same b a := fun i => (same i).symm

theorem Settled.trans (ab : Settled a b i) (bc : Settled b c i) : Settled a c i :=
  ⟨ab.1.trans bc.1, ab.2⟩

theorem Decides.symm (first : Decides a b i) : Decides b a i :=
  ⟨fun j early => (first.before j early).symm, fun settled => first.here settled.symm⟩

theorem compare_same (same : Same a b) : compareVersions a b = 0 := by
  rcases compareVersions_cases a b with ⟨-, zero⟩ | ⟨⟨i, first, -⟩, -⟩ | ⟨⟨i, first, -⟩, -⟩
  · exact zero
  · exact absurd (same i) first.here
  · exact absurd (same i) first.here

theorem compare_precedes (less : Precedes a b) : compareVersions a b = -1 := by
  obtain ⟨i, first, less⟩ := less
  rcases compareVersions_cases a b with ⟨same, -⟩ | ⟨-, below⟩ | ⟨⟨j, first', not_less⟩, -⟩
  · exact absurd (same i) first.here
  · exact below
  · rw [first'.unique first] at not_less
    exact absurd less not_less

theorem compare_not_less (first : Decides a b i) (not_less : ¬lt (partAt a i) (partAt b i)) :
    compareVersions a b = 1 := by
  rcases compareVersions_cases a b with ⟨same, -⟩ | ⟨⟨j, first', less⟩, -⟩ | ⟨-, above⟩
  · exact absurd (same i) first.here
  · rw [first'.unique first] at less
    exact absurd less not_less
  · exact above

theorem compare_follows (less : Precedes b a) : compareVersions a b = 1 := by
  obtain ⟨i, first, less⟩ := less
  refine compare_not_less first.symm ?_
  rw [Double.not_lt_of_lt less]
  exact Bool.false_ne_true

/-- Two versions are the same, or one comes first, or they share an infinite part. -/
theorem same_or_precedes (a b : String) :
    Same a b ∨ Precedes a b ∨ Precedes b a ∨ SharedInfinity a b := by
  rcases compareVersions_cases a b with ⟨same, -⟩ | ⟨less, -⟩ | ⟨⟨i, first, not_less⟩, -⟩
  · exact .inl same
  · exact .inr (.inl less)
  · rcases Double.lt_trichotomy (partAt_ne_nan a i) (partAt_ne_nan b i) with less | same | greater
    · exact absurd less not_less
    · exact .inr (.inr (.inr ⟨i, first, same⟩))
    · exact .inr (.inr (.inl ⟨i, first.symm, greater⟩))

theorem compare_antisymm (apart : ¬SharedInfinity a b) :
    compareVersions a b = -compareVersions b a := by
  rcases same_or_precedes a b with same | less | greater | shared
  · rw [compare_same same, compare_same same.symm]
    rfl
  · rw [compare_precedes less, compare_follows less]
  · rw [compare_precedes greater, compare_follows greater]
    rfl
  · exact absurd shared apart

/-- With a shared infinite part, each of the two is taken to be the greater one. -/
theorem compare_sharedInfinity (shared : SharedInfinity a b) :
    compareVersions a b = 1 ∧ compareVersions b a = 1 := by
  obtain ⟨i, first, same⟩ := shared
  constructor
  · refine compare_not_less first ?_
    rw [same, Double.lt_irrefl]
    exact Bool.false_ne_true
  · refine compare_not_less first.symm ?_
    rw [same, Double.lt_irrefl]
    exact Bool.false_ne_true

theorem of_compare_nonpos (le : compareVersions a b ≤ 0) : Same a b ∨ Precedes a b := by
  rcases compareVersions_cases a b with ⟨same, -⟩ | ⟨less, -⟩ | ⟨-, above⟩
  · exact .inl same
  · exact .inr less
  · omega

theorem Same.precedes (same : Same a b) (bc : Precedes b c) : Precedes a c := by
  obtain ⟨i, first, less⟩ := bc
  have before (j : ℕ) (early : j < i) := (same j).trans (first.before j early)
  have here (settled : Settled a c i) := first.here ((same i).symm.trans settled)
  exact ⟨i, ⟨before, here⟩, (same i).1 ▸ less⟩

theorem Precedes.same (ab : Precedes a b) (same : Same b c) : Precedes a c := by
  obtain ⟨i, first, less⟩ := ab
  have before (j : ℕ) (early : j < i) := (first.before j early).trans (same j)
  have here (settled : Settled a c i) := first.here (settled.trans (same i).symm)
  exact ⟨i, ⟨before, here⟩, (same i).1 ▸ less⟩

theorem Precedes.trans (ab : Precedes a b) (bc : Precedes b c) : Precedes a c := by
  obtain ⟨i, first, less⟩ := ab
  obtain ⟨j, first', less'⟩ := bc
  have apart {k : ℕ} (less : lt (partAt a k) (partAt c k)) : ¬Settled a c k :=
    fun settled => Double.ne_of_lt less settled.1
  rcases Nat.lt_trichotomy i j with early | rfl | late
  · have less : lt (partAt a i) (partAt c i) := (first'.before i early).1 ▸ less
    exact ⟨i, ⟨fun k before => (first.before k before).trans (first'.before k (before.trans early)),
      apart less⟩, less⟩
  · have less := Double.lt_trans less less'
    exact ⟨i, ⟨fun k before => (first.before k before).trans (first'.before k before), apart less⟩,
      less⟩
  · have less : lt (partAt a j) (partAt c j) := (first.before j late).1 ▸ less'
    exact ⟨j, ⟨fun k before => (first.before k (before.trans late)).trans (first'.before k before),
      apart less⟩, less⟩

theorem compare_trans (ab : compareVersions a b ≤ 0) (bc : compareVersions b c ≤ 0) :
    compareVersions a c ≤ 0 := by
  have le_of_precedes (less : Precedes a c) : compareVersions a c ≤ 0 := by
    rw [compare_precedes less]
    decide
  rcases of_compare_nonpos ab with same | less
  · rcases of_compare_nonpos bc with same' | less'
    · exact (compare_same fun i => (same i).trans (same' i)).le
    · exact le_of_precedes (same.precedes less')
  · rcases of_compare_nonpos bc with same' | less'
    · exact le_of_precedes (less.same same')
    · exact le_of_precedes (less.trans less')

theorem compare_self (a : String) : ¬compareVersions a a < 0 := by
  rcases compareVersions_cases a a with ⟨-, zero⟩ | ⟨⟨i, -, less⟩, -⟩ | ⟨-, above⟩
  · omega
  · rw [Double.lt_irrefl] at less
    cases less
  · omega

end Loop

section Dotted

variable {a b : String} {x y : List ℕ} {i : ℕ}

def components (version : String) : Option (List ℕ) :=
  (version.toList.splitOn '.').mapM (digits 10)

def padded (x : List ℕ) (i : ℕ) : ℕ := x.getD i 0

/-- Up to the first position where the components differ, equal ones are finite numbers and
different ones are different numbers. -/
structure Resolved (x y : List ℕ) : Prop where
  finite : ∀ i, (∀ j ≤ i, padded x j = padded y j) → (Double.ofNat (padded x i)).isFinite
  apart : ∀ i, (∀ j < i, padded x j = padded y j) → padded x i ≠ padded y i →
    Double.ofNat (padded x i) ≠ Double.ofNat (padded y i)

theorem parts_of_components {parts : List (List Char)} (known : parts.mapM (digits 10) = some x) :
    parts.map (fun part => Double.orZero (number part)) = x.map Double.ofNat := by
  induction parts generalizing x with
  | nil =>
    cases known
    rfl
  | cons part parts ih =>
    rw [List.mapM_cons] at known
    obtain ⟨n, digits, known⟩ := Option.bind_eq_some_iff.1 known
    obtain ⟨rest, later, same⟩ := Option.bind_eq_some_iff.1 known
    cases same
    rw [List.map_cons, List.map_cons, ih later, number_digits digits,
      Double.orZero_some (Double.ofNat_ne_nan n)]

theorem partAt_of_components (known : components a = some x) (i : ℕ) :
    partAt a i = Double.ofNat (padded x i) := by
  have nonempty : a ≠ "" := by
    rintro rfl
    cases known
  have version : orElse (some a) "0.0.0" = a := if_neg nonempty
  rw [partAt, versionParts, version, parts_of_components known, List.getElem?_map, padded,
    List.getD_eq_getElem?_getD]
  cases x[i]? with
  | none => exact Double.ofNat_zero.symm
  | some n => exact Double.orZero_some (Double.ofNat_ne_nan n)

theorem lex_iff : toLex (padded x) < toLex (padded y) ↔
    ∃ i, (∀ j < i, padded x j = padded y j) ∧ padded x i < padded y i := Iff.rfl

theorem settled_of_equal (known : components a = some x) (known' : components b = some y)
    (resolved : Resolved x y) (equal : ∀ j ≤ i, padded x j = padded y j) : Settled a b i := by
  have finite := resolved.finite i equal
  rw [Settled, partAt_of_components known, partAt_of_components known', ← equal i le_rfl]
  exact ⟨rfl, finite⟩

theorem precedes_of_lex (known : components a = some x) (known' : components b = some y)
    (resolved : Resolved x y) (less : toLex (padded x) < toLex (padded y)) : Precedes a b := by
  obtain ⟨i, same, less⟩ := lex_iff.1 less
  have settled (j : ℕ) (early : j < i) : Settled a b j :=
    settled_of_equal known known' resolved fun k before => same k (before.trans_lt early)
  have order : lt (partAt a i) (partAt b i) := by
    rw [partAt_of_components known, partAt_of_components known']
    exact (Double.ofNat_mono less.le).resolve_right (resolved.apart i same less.ne)
  exact ⟨i, ⟨settled, fun here => Double.ne_of_lt order here.1⟩, order⟩

theorem Resolved.symm (resolved : Resolved x y) : Resolved y x where
  finite i same := by
    rw [same i le_rfl]
    exact resolved.finite i fun j early => (same j early).symm
  apart i same different :=
    (resolved.apart i (fun j early => (same j early).symm) different.symm).symm

/-- The comparison of dotted decimals is that of their components. -/
theorem compare_components (known : components a = some x) (known' : components b = some y)
    (resolved : Resolved x y) :
    (compareVersions a b = -1 ∧ toLex (padded x) < toLex (padded y)) ∨
      (compareVersions a b = 0 ∧ padded x = padded y) ∨
      (compareVersions a b = 1 ∧ toLex (padded y) < toLex (padded x)) := by
  rcases lt_trichotomy (toLex (padded x)) (toLex (padded y)) with less | equal | greater
  · exact .inl ⟨compare_precedes (precedes_of_lex known known' resolved less), less⟩
  · have equal : padded x = padded y := toLex.injective equal
    have same : Same a b := fun i =>
      settled_of_equal known known' resolved fun j _ => congrFun equal j
    exact .inr (.inl ⟨compare_same same, equal⟩)
  · have follows := precedes_of_lex known' known resolved.symm greater
    exact .inr (.inr ⟨compare_follows follows, greater⟩)

theorem padded_le (small : ∀ n ∈ x, n ≤ 2 ^ 53) (i : ℕ) : padded x i ≤ 2 ^ 53 := by
  rw [padded, List.getD_eq_getElem?_getD]
  cases known : x[i]? with
  | none => exact Nat.zero_le _
  | some n => exact small n (List.mem_of_getElem? known)

theorem resolved_of_small (small : ∀ n ∈ x, n ≤ 2 ^ 53) (small' : ∀ n ∈ y, n ≤ 2 ^ 53) :
    Resolved x y where
  finite i _ := Double.ofNat_finite (padded_le small i)
  apart i _ different same :=
    different (Double.ofNat_inj (padded_le small i) (padded_le small' i) same)

end Dotted

theorem no_update_of_current {host : Host} {i : Installation} {query : Query} {u : UpdateCheck}
    {latest : Release} {version : String} (checked : checkClientUpdate host i query = .ok u)
    (published : u.latest = some latest) (same : latest.version = version)
    (current : u.current = some version) (nonempty : version ≠ "") : u.updateAvailable = false := by
  unfold checkClientUpdate at checked
  dsimp only at checked
  split at checked
  · cases checked
  · cases checked
    rfl
  · rename_i release _
    split at checked
    · cases checked
      rfl
    · cases checked
      cases published
      dsimp only at current ⊢
      split at current
      · cases current
      · rename_i given
        rw [Option.some.inj current, same]
        exact decide_eq_false (not_or.2 ⟨nonempty, compare_self version⟩)

/-- The laws of the comparison, apart from versions that share an infinite part and from components
that are not told apart. -/
structure Ordered (a b c : String) : Prop where
  antisymm : ¬SharedInfinity a b → compareVersions a b = -compareVersions b a
  trans : compareVersions a b ≤ 0 → compareVersions b c ≤ 0 → compareVersions a c ≤ 0
  lexicographic : ∀ x y, components a = some x → components b = some y → Resolved x y →
    (compareVersions a b = -1 ∧ toLex (padded x) < toLex (padded y)) ∨
      (compareVersions a b = 0 ∧ padded x = padded y) ∨
      (compareVersions a b = 1 ∧ toLex (padded y) < toLex (padded x))
  current : ∀ host i query u latest, checkClientUpdate host i query = .ok u →
    u.latest = some latest → latest.version = a → u.current = some a → a ≠ "" →
    u.updateAvailable = false

theorem versions_ordered (a b c : String) : Ordered a b c where
  antisymm := compare_antisymm
  trans := compare_trans
  lexicographic _ _ := compare_components
  current _ _ _ _ _ := no_update_of_current

/-- An infinite part makes a version greater than itself, and large components are rounded. -/
theorem not_a_total_order :
    (¬∀ a b, compareVersions a b = -compareVersions b a) ∧
      ¬∀ a b x y, components a = some x → components b = some y →
        toLex (padded x) < toLex (padded y) → compareVersions a b = -1 := by
  constructor
  · intro antisymm
    have infinite : compareVersions "Infinity" "Infinity" = 1 := by decide +kernel
    have := antisymm "Infinity" "Infinity"
    omega
  · intro agree
    have rounded : compareVersions "9007199254740992" "9007199254740993" = 0 := by decide +kernel
    have less : toLex (padded [9007199254740992]) < toLex (padded [9007199254740993]) :=
      ⟨0, fun j early => absurd early (Nat.not_lt_zero j), by decide⟩
    have := agree "9007199254740992" "9007199254740993" _ _ (by decide +kernel) (by decide +kernel)
      less
    omega

end VersionOrder
