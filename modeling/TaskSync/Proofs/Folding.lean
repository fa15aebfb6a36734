import Mathlib.Data.List.TakeWhile
import TaskSync.Http.Allowlist
import TaskSync.Uuid

/-!
# Letters in either case

Ids are read in either case. What is looked at on the way, blanks and hyphens,
slashes, dots and escapes, does not change with the case of letters, so that
texts with the same letters come out with the same letters.
-/

namespace TaskSync

/-! ## Letters -/

/-- What is looked at in a character is the same in its lower case. -/
def Blind {β : Type} (f : Char → β) : Prop := ∀ c, f c.toLower = f c

theorem isUpper_iff {c : Char} : c.isUpper = true ↔ 65 ≤ c.toNat ∧ c.toNat ≤ 90 := by
  unfold Char.isUpper
  simp [UInt32.le_iff_toNat_le]

theorem toLower_eq_self {c : Char} (small : c.isUpper = false) : c.toLower = c := by
  unfold Char.toLower
  refine dif_neg fun upper => ?_
  rw [← Bool.not_eq_true, isUpper_iff] at small
  exact small (by simpa [UInt32.le_iff_toNat_le] using upper)

theorem forall_capitals {p : Char → Prop} (capitals : ∀ n < 26, p (Char.ofNat (n + 65))) {c : Char}
    (upper : c.isUpper = true) : p c := by
  obtain ⟨low, high⟩ := isUpper_iff.mp upper
  have place : Char.ofNat (c.toNat - 65 + 65) = c := by
    rw [Nat.sub_add_cancel low, Char.ofNat_toNat]
  exact place ▸ capitals (c.toNat - 65) (by omega)

theorem Blind.of_capitals {β : Type} {f : Char → β}
    (capitals : ∀ n < 26, f (Char.ofNat (n + 65)).toLower = f (Char.ofNat (n + 65))) :
    Blind f := by
  intro c
  cases upper : c.isUpper with
  | true => exact forall_capitals (p := fun c => f c.toLower = f c) capitals upper
  | false => rw [toLower_eq_self upper]

theorem blind_toLower : Blind Char.toLower := .of_capitals (by decide +kernel)

def folded (cs : List Char) : List Char := cs.map Char.toLower

theorem folded_folded (cs : List Char) : folded (folded cs) = folded cs := by
  unfold folded
  rw [List.map_map]
  exact List.map_congr_left fun c _ => blind_toLower c

theorem folded_append (cs ds : List Char) : folded (cs ++ ds) = folded cs ++ folded ds :=
  List.map_append

theorem toList_asciiLower (s : String) : (Http.asciiLower s).toList = folded s.toList :=
  String.toList_ofList

section

variable {p : Char → Bool} (blind : Blind p) (cs : List Char)
include blind

theorem filter_folded : (folded cs).filter p = folded (cs.filter p) := by
  rw [folded, List.filter_map, show p ∘ Char.toLower = p from funext blind, folded]

theorem takeWhile_folded : (folded cs).takeWhile p = folded (cs.takeWhile p) := by
  rw [folded, List.takeWhile_map, show p ∘ Char.toLower = p from funext blind, folded]

theorem dropWhile_folded : (folded cs).dropWhile p = folded (cs.dropWhile p) := by
  rw [folded, List.dropWhile_map, show p ∘ Char.toLower = p from funext blind, folded]

theorem any_folded : (folded cs).any p = cs.any p := by
  rw [folded, List.any_map, show p ∘ Char.toLower = p from funext blind]

theorem all_folded : (folded cs).all p = cs.all p := by
  rw [folded, List.all_map, show p ∘ Char.toLower = p from funext blind]

end

/-! ## Texts -/

namespace Text

theorem strip_folded {p : Char → Bool} (blind : Blind p) (cs : List Char) :
    strip p (folded cs) = folded (strip p cs) := by
  have reverse (cs : List Char) : (folded cs).reverse = folded cs.reverse := List.map_reverse.symm
  unfold strip
  rw [dropWhile_folded blind, reverse, dropWhile_folded blind, reverse]

theorem fields_folded {sep : Char} (blind : Blind (· = sep)) (cs : List Char) :
    fields sep (folded cs) = (fields sep cs).map folded := by
  induction cs with
  | nil => rfl
  | cons c cs ih =>
    have same : (c.toLower = sep) = (c = sep) := blind c
    change fields sep (c.toLower :: folded cs) = _
    simp only [fields, ih, same]
    split
    · rfl
    · cases fields sep cs <;> rfl

theorem meetsLetter_folded (cs : List Char) : meetsLetter (folded cs) = meetsLetter cs := by
  have passed : Blind (inRanges passedRanges) := .of_capitals (by decide +kernel)
  have cased : Blind (inRanges casedRanges) := .of_capitals (by decide +kernel)
  unfold meetsLetter
  rw [dropWhile_folded passed, folded, List.head?_map]
  cases (cs.dropWhile (inRanges passedRanges)).head? with
  | none => rfl
  | some c => exact cased c

theorem lowerFrom_folded (before cs : List Char) :
    lowerFrom (folded before) (folded cs) = lowerFrom before cs := by
  have dotted : Blind (· = '\u0130') := .of_capitals (by decide +kernel)
  have sigma : Blind (· = '\u03a3') := .of_capitals (by decide +kernel)
  have letter : Blind lowerChar := .of_capitals (by decide +kernel)
  induction cs generalizing before with
  | nil => rfl
  | cons c cs ih =>
    have rest : lowerFrom (c.toLower :: folded before) (folded cs) = lowerFrom (c :: before) cs :=
      ih (c :: before)
    have same : (c.toLower = '\u0130') = (c = '\u0130') ∧ (c.toLower = '\u03a3') = (c = '\u03a3') :=
      ⟨dotted c, sigma c⟩
    change lowerFrom (folded before) (c.toLower :: folded cs) = _
    simp only [lowerFrom, rest, lowerAt, same, letter c, meetsLetter_folded]

theorem lower_asciiLower (s : String) : lower (Http.asciiLower s) = lower s := by
  rw [lower, toList_asciiLower]
  exact congrArg String.ofList (lowerFrom_folded [] s.toList)

theorem trim_asciiLower (s : String) : trim (Http.asciiLower s) = Http.asciiLower (trim s) := by
  have blank : Blind isBlank := .of_capitals (by decide +kernel)
  rw [trim, toList_asciiLower, strip_folded blank, Http.asciiLower, trim, String.toList_ofList,
    folded]

end Text

theorem Uuid.read?_asciiLower (s : String) : read? (Http.asciiLower s) = read? s := by
  have hyphen : Blind (· = '-') := .of_capitals (by decide +kernel)
  have hex : Blind isHexDigit := .of_capitals (by decide +kernel)
  have valid : isUuid (folded s.toList) = isUuid s.toList := by
    have digits : (fun part : List Char => part.all isHexDigit) ∘ folded =
        fun part => part.all isHexDigit := funext fun part => all_folded hex part
    have lengths : List.length ∘ folded = List.length := funext fun part => List.length_map _
    simp only [isUuid, Text.fields_folded hyphen, List.map_map, List.all_map, digits, lengths]
  have twice : folded (folded s.toList) = folded s.toList := folded_folded s.toList
  unfold folded at twice valid
  unfold read?
  rw [toList_asciiLower, folded, valid, twice]

theorem Uuid.read?_self {value id : String} (reads : read? value = some id) :
    read? id = some id := by
  have lower : id = Http.asciiLower value := by
    unfold read? at reads
    split at reads
    · exact (Option.some.inj reads).symm
    · cases reads
  rw [lower, read?_asciiLower, reads, lower]

theorem Http.Allowlist.ofList_recased {entries entries' : List String}
    (recased : entries.map asciiLower = entries'.map asciiLower) :
    ofList entries = ofList entries' := by
  have lower (entries : List String) : entries.map (fun entry => Text.lower (Text.trim entry)) =
      (entries.map asciiLower).map fun entry => Text.lower (Text.trim entry) := by
    rw [List.map_map]
    refine List.map_congr_left fun entry _ => ?_
    rw [Function.comp_apply, Text.trim_asciiLower, Text.lower_asciiLower]
  rw [ofList, ofList, lower entries, recased, ← lower entries']

end TaskSync
