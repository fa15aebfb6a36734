import Mathlib.Data.List.Forall2
import TaskSync.Proofs.Folding
import TaskSync.Proofs.Requests

/-!
# How an id is written

An id has 36 characters, hyphens at four places and hexadecimal digits in either
case at all others. It is kept with its digits in lower case, so that two texts
are the same id exactly if they differ at most in the case of letters.
-/

namespace TaskSync.Uuid

/-! ## Digits -/

def hexDigits : List Char := "0123456789abcdefABCDEF".toList

theorem isHexDigit_iff {c : Char} : isHexDigit c = true ↔ c ∈ hexDigits := by
  constructor
  · intro hex
    exact Http.forall_ascii (p := fun c => isHexDigit c = true → c ∈ hexDigits)
      (by decide +kernel) (Http.toNat_lt_of_isPlain (Http.isPlain_of_isHexDigit hex)) hex
  · have digits : hexDigits.all isHexDigit = true := by decide
    exact List.all_eq_true.mp digits c

def smallDigit : Char → Char
  | 'A' => 'a'
  | 'B' => 'b'
  | 'C' => 'c'
  | 'D' => 'd'
  | 'E' => 'e'
  | 'F' => 'f'
  | c => c

theorem toLower_eq_smallDigit : ∀ c ∈ '-' :: hexDigits, c.toLower = smallDigit c := by
  have digits : ('-' :: hexDigits).all (fun c => c.toLower = smallDigit c) = true := by decide
  simpa only [List.all_eq_true, decide_eq_true_eq] using digits

/-! ## Places -/

/-- What stands at a place of an id. -/
inductive Place where
  | digit
  | hyphen
deriving DecidableEq

def Place.Fits : Place → Char → Prop
  | digit, c => c ∈ hexDigits
  | hyphen, c => c = '-'

/-- The places of groups of digits, with a hyphen between any two. -/
def places : List Nat → List Place
  | [] => []
  | [n] => List.replicate n .digit
  | n :: m :: rest => List.replicate n .digit ++ .hyphen :: places (m :: rest)

theorem places_succ (n : Nat) (rest : List Nat) :
    places ((n + 1) :: rest) = .digit :: places (n :: rest) := by
  cases rest <;> simp [places, List.replicate_succ]

/-- A text has groups of digits exactly if every place of the groups has its character. -/
theorem fields_iff_places {n : Nat} {rest : List Nat} {cs : List Char} :
    ((Text.fields '-' cs).map List.length = n :: rest ∧
        ∀ piece ∈ Text.fields '-' cs, ∀ c ∈ piece, c ∈ hexDigits) ↔
      List.Forall₂ Place.Fits (places (n :: rest)) cs := by
  induction cs generalizing n rest with
  | nil =>
    cases n with
    | zero => cases rest <;> simp [Text.fields, places]
    | succ n => simp [Text.fields, places_succ]
  | cons c cs ih =>
    have some := Text.fields_ne_nil '-' cs
    obtain ⟨piece, more, cut⟩ := List.exists_cons_of_ne_nil some
    rw [cut] at ih
    by_cases hyphen : c = '-'
    · -- The first group ends here, and must have no digits left.
      subst hyphen
      have noDigit : '-' ∉ hexDigits := by decide
      cases n with
      | zero =>
        cases rest with
        | nil => simp [Text.fields, places, cut]
        | cons m rest =>
          simpa [Text.fields, places, cut, Place.Fits, List.forall₂_cons] using @ih m rest
      | succ n => simp [Text.fields, places_succ, Place.Fits, noDigit]
    · cases n with
      | zero =>
        cases rest with
        | nil => simp [Text.fields, places, cut, hyphen]
        | cons m rest => simp [Text.fields, places, cut, hyphen, Place.Fits]
      | succ n =>
        rw [places_succ, List.forall₂_cons, ← ih]
        simp only [Text.fields, cut, if_neg hyphen, List.map_cons, List.length_cons,
          List.cons.injEq, Nat.succ.injEq, List.forall_mem_cons, Place.Fits]
        tauto

theorem isUuid_iff_places {cs : List Char} :
    isUuid cs = true ↔ List.Forall₂ Place.Fits (places groups) cs := by
  unfold groups
  rw [← fields_iff_places]
  simp [isUuid, groups, isHexDigit_iff]

theorem forall₂_iff_getElem? {α β : Type} {R : α → β → Prop} {as : List α} {bs : List β} :
    List.Forall₂ R as bs ↔ as.length = bs.length ∧
      ∀ (i : Nat) (a : α) (b : β), as[i]? = some a → bs[i]? = some b → R a b := by
  rw [List.forall₂_iff_get]
  apply and_congr_right
  intro length
  constructor
  · intro related i a b ha hb
    obtain ⟨lt, rfl⟩ := List.getElem?_eq_some_iff.mp ha
    obtain ⟨lt', rfl⟩ := List.getElem?_eq_some_iff.mp hb
    exact related i lt lt'
  · intro related i lt lt'
    exact related i _ _ (List.getElem?_eq_getElem lt) (List.getElem?_eq_getElem lt')

/-- The places of the hyphens in an id. -/
def hyphenPlaces : List Nat := [8, 13, 18, 23]

/-- A text has the characters of an id at their places, and no others. -/
structure IsWritten (s : String) : Prop where
  length : s.toList.length = 36
  hyphen : ∀ i ∈ hyphenPlaces, s.toList[i]? = some '-'
  digit : ∀ i c, s.toList[i]? = some c → i ∉ hyphenPlaces → c ∈ hexDigits

theorem places_groups : ∀ i < 36,
    (places groups)[i]? = some (if i ∈ hyphenPlaces then .hyphen else .digit) := by
  decide

theorem isUuid_iff_isWritten {s : String} : isUuid s.toList = true ↔ IsWritten s := by
  have whole : (places groups).length = 36 := rfl
  have inside : ∀ i ∈ hyphenPlaces, i < 36 := by decide
  rw [isUuid_iff_places, forall₂_iff_getElem?, whole]
  constructor
  · rintro ⟨length, fits⟩
    refine ⟨length.symm, fun i hi => ?_, fun i c found hi => ?_⟩
    · have lt := inside i hi
      have found : s.toList[i]? = some s.toList[i] := List.getElem?_eq_getElem (by omega)
      have fit := fits i _ _ (places_groups i lt) found
      rw [if_pos hi] at fit
      rw [found, fit]
    · have lt := (List.getElem?_eq_some_iff.mp found).1
      have fit := fits i _ c (places_groups i (by omega)) found
      rwa [if_neg hi] at fit
  · intro written
    refine ⟨written.length.symm, fun i place c hplace found => ?_⟩
    have lt := (List.getElem?_eq_some_iff.mp hplace).1
    rw [places_groups i (by omega), Option.some.injEq] at hplace
    subst hplace
    split
    · next hi =>
      rw [written.hyphen i hi, Option.some.injEq] at found
      exact found.symm
    · next hi => exact written.digit i c found hi

/-! ## Letters -/

/-- One character, or one letter in either case. -/
def SameLetter (c d : Char) : Prop := c = d ∨ c = d.toLower ∨ d = c.toLower

theorem toLower_eq_toLower_iff {c d : Char} : c.toLower = d.toLower ↔ SameLetter c d := by
  constructor
  · intro same
    cases hc : c.isUpper with
    | false => exact .inr (.inl (by rw [← same, toLower_eq_self hc]))
    | true =>
      cases hd : d.isUpper with
      | false => exact .inr (.inr (by rw [same, toLower_eq_self hd]))
      | true =>
        -- A capital is found again from its lower case.
        have back (c : Char) (upper : c.isUpper = true) : c.toLower.toUpper = c :=
          forall_capitals (p := fun c => c.toLower.toUpper = c) (by decide +kernel) upper
        exact .inl (by rw [← back c hc, same, back d hd])
  · rintro (rfl | rfl | rfl)
    · rfl
    · exact blind_toLower d
    · exact (blind_toLower c).symm

/-- Two texts that differ at most in the case of letters. -/
def SameButCase (s t : String) : Prop := List.Forall₂ SameLetter s.toList t.toList

variable {s t id : String}

theorem asciiLower_eq_iff : Http.asciiLower s = Http.asciiLower t ↔ SameButCase s t := by
  unfold Http.asciiLower SameButCase
  rw [String.ofList_inj, ← List.forall₂_eq_eq_eq, List.forall₂_map_left_iff,
    List.forall₂_map_right_iff]
  simp only [toLower_eq_toLower_iff]

/-! ## Reading -/

theorem read?_of_isWritten (written : IsWritten s) : read? s = some (Http.asciiLower s) := by
  unfold read? Http.asciiLower
  rw [if_pos (isUuid_iff_isWritten.mpr written)]

theorem isWritten_of_read (reads : read? s = some id) : IsWritten s := by
  unfold read? at reads
  split at reads
  · next uuid => exact isUuid_iff_isWritten.mp uuid
  · cases reads

theorem isSome_read?_iff : (read? s).isSome = true ↔ IsWritten s := by
  constructor
  · intro some
    obtain ⟨id, reads⟩ := Option.isSome_iff_exists.mp some
    exact isWritten_of_read reads
  · intro written
    rw [read?_of_isWritten written]
    rfl

theorem IsWritten.mem (written : IsWritten s) {c : Char} (hc : c ∈ s.toList) :
    c ∈ '-' :: hexDigits := by
  obtain ⟨i, found⟩ := List.mem_iff_getElem?.mp hc
  by_cases hi : i ∈ hyphenPlaces
  · rw [written.hyphen i hi, Option.some.injEq] at found
    rw [← found]
    exact List.mem_cons_self
  · exact List.mem_cons_of_mem _ (written.digit i c found hi)

theorem IsWritten.asciiLower_eq (written : IsWritten s) :
    Http.asciiLower s = String.ofList (s.toList.map smallDigit) := by
  unfold Http.asciiLower
  congr 1
  exact List.map_congr_left fun c hc => toLower_eq_smallDigit c (written.mem hc)

/-- **Ids.** A text is read as an id exactly if it is written as one. The id is the text with its
digits in lower case, which is the lower case of the whole text. It is an id itself, and two texts
have the same one exactly if they differ at most in the case of letters. -/
theorem reads_as_written (s t : String) :
    ((read? s).isSome = true ↔ IsWritten s) ∧
      (∀ id, read? s = some id →
        id = String.ofList (s.toList.map smallDigit) ∧ id = Text.lower s ∧
          IsWritten id ∧ read? id = some id) ∧
      (IsWritten s → IsWritten t → (read? s = read? t ↔ SameButCase s t)) := by
  refine ⟨isSome_read?_iff, fun id reads => ?_, fun written written' => ?_⟩
  · have written := isWritten_of_read reads
    have again := read?_self reads
    refine ⟨?_, (Http.lower_of_read reads).symm, isWritten_of_read again, again⟩
    rw [read?_of_isWritten written, Option.some.injEq] at reads
    rw [← reads, written.asciiLower_eq]
  · rw [read?_of_isWritten written, read?_of_isWritten written', Option.some.injEq,
      asciiLower_eq_iff]

theorem reads_as_written_mixed :
    IsWritten "0a1B2c3D-4E5f-6789-aBcD-Ef0123456789" ∧
      IsWritten "0A1b2C3d-4e5F-6789-AbCd-eF0123456789" ∧
      read? "0a1B2c3D-4E5f-6789-aBcD-Ef0123456789" =
        some "0a1b2c3d-4e5f-6789-abcd-ef0123456789" ∧
      read? "0A1b2C3d-4e5F-6789-AbCd-eF0123456789" =
        some "0a1b2c3d-4e5f-6789-abcd-ef0123456789" ∧
      SameButCase "0a1B2c3D-4E5f-6789-aBcD-Ef0123456789"
        "0A1b2C3d-4e5F-6789-AbCd-eF0123456789" := by
  have reads := reads_as_written "0a1B2c3D-4E5f-6789-aBcD-Ef0123456789"
    "0A1b2C3d-4e5F-6789-AbCd-eF0123456789"
  have first : read? "0a1B2c3D-4E5f-6789-aBcD-Ef0123456789" =
      some "0a1b2c3d-4e5f-6789-abcd-ef0123456789" := by decide +kernel
  have second : read? "0A1b2C3d-4e5F-6789-AbCd-eF0123456789" =
      some "0a1b2c3d-4e5f-6789-abcd-ef0123456789" := by decide +kernel
  have written := isWritten_of_read first
  have written' := isWritten_of_read second
  exact ⟨written, written', first, second,
    (reads.2.2 written written').mp (first.trans second.symm)⟩

/-- A text with a line break behind it is no id. -/
example : read? "0a1b2c3d-4e5f-6789-abcd-ef0123456789\n" = none := by decide +kernel

end TaskSync.Uuid
