/-!
# Blank characters

Which characters count as blank around a value, and how a value is cut at a
separator. Blank is wider than ASCII: the byte order mark and the line
separators belong to it, the zero width space does not.
-/

namespace TaskSync.Text

def isBlank (c : Char) : Bool :=
  (9 ≤ c.toNat && c.toNat ≤ 13) || (0x2000 ≤ c.toNat && c.toNat ≤ 0x200A) ||
    [0x20, 0xA0, 0x1680, 0x2028, 0x2029, 0x202F, 0x205F, 0x3000, 0xFEFF].contains c.toNat

def endsLine (c : Char) : Bool :=
  [0x0A, 0x0D, 0x2028, 0x2029].contains c.toNat

/-- Leaves out the characters of a class at both ends. -/
def strip (p : Char → Bool) (cs : List Char) : List Char :=
  ((cs.dropWhile p).reverse.dropWhile p).reverse

def trim (s : String) : String := String.ofList (strip isBlank s.toList)

/-- The pieces between the separators. There is always one more than separators. -/
def fields (sep : Char) : List Char → List (List Char)
  | [] => [[]]
  | c :: rest =>
    if c = sep then [] :: fields sep rest
    else match fields sep rest with
      | [] => [[c]]
      | piece :: more => (c :: piece) :: more

/-- The entries of a comma-separated text: trimmed, and the blank ones dropped. -/
def entries (s : String) : List String :=
  ((fields ',' s.toList).map fun piece => String.ofList (strip isBlank piece)).filter (· ≠ "")

/-! ## What stripping does -/

theorem strip_eq_self {p : Char → Bool} {cs : List Char} (first : ∀ c ∈ cs.head?, p c = false)
    (last : ∀ c ∈ cs.getLast?, p c = false) : strip p cs = cs := by
  have keep : ∀ l : List Char, (∀ c ∈ l.head?, p c = false) → l.dropWhile p = l := by
    intro l h
    cases l with
    | nil => rfl
    | cons c l => simp [h c (by simp)]
  unfold strip
  rw [keep cs first, keep cs.reverse (by simpa using last), List.reverse_reverse]

/-! ## What fields are -/

theorem fields_ne_nil (sep : Char) (cs : List Char) : fields sep cs ≠ [] := by
  cases cs with
  | nil => simp [fields]
  | cons c rest =>
    simp only [fields]
    split
    · simp
    · split <;> simp

theorem fields_append_sep (sep : Char) (cs ds : List Char) :
    fields sep (cs ++ sep :: ds) = fields sep cs ++ fields sep ds := by
  induction cs with
  | nil => simp [fields]
  | cons c cs ih =>
    rw [List.cons_append, fields, fields, ih]
    split
    · rfl
    · cases hfields : fields sep cs with
      | nil => exact absurd hfields (fields_ne_nil sep cs)
      | cons piece more => rfl

variable {sep : Char} {cs : List Char}

theorem fields_eq_self (none : sep ∉ cs) : fields sep cs = [cs] := by
  induction cs with
  | nil => rfl
  | cons c cs ih =>
    rw [List.mem_cons, not_or] at none
    rw [fields, if_neg (Ne.symm none.1), ih none.2]

theorem fields_append (none : sep ∉ cs) (rest : List Char) :
    fields sep (cs ++ sep :: rest) = cs :: fields sep rest := by
  rw [fields_append_sep, fields_eq_self none]
  rfl

theorem mem_fields {c : Char} (h : c ∈ cs) : c = sep ∨ ∃ piece ∈ fields sep cs, c ∈ piece := by
  induction cs with
  | nil => cases h
  | cons d cs ih =>
    by_cases hd : d = sep
    · rw [fields, if_pos hd]
      rcases List.mem_cons.mp h with rfl | h
      · exact .inl hd
      · rcases ih h with hc | ⟨piece, hpiece, hc⟩
        · exact .inl hc
        · exact .inr ⟨piece, List.mem_cons_of_mem _ hpiece, hc⟩
    · rw [fields, if_neg hd]
      cases hfields : fields sep cs with
      | nil => exact absurd hfields (fields_ne_nil sep cs)
      | cons piece more =>
        rw [hfields] at ih
        rcases List.mem_cons.mp h with rfl | h
        · exact .inr ⟨c :: piece, List.mem_cons_self, List.mem_cons_self⟩
        · rcases ih h with hc | ⟨found, hfound, hc⟩
          · exact .inl hc
          · rcases List.mem_cons.mp hfound with rfl | hfound
            · exact .inr ⟨d :: found, List.mem_cons_self, List.mem_cons_of_mem _ hc⟩
            · exact .inr ⟨found, List.mem_cons_of_mem _ hfound, hc⟩

end TaskSync.Text
