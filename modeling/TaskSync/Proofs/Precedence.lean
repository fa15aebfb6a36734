import TaskSync.Proofs.Checks

/-!
# Flags before variables

A setting that is given by a flag is read as if its variable had the text of the
flag, whatever the variable restates. A list whose flag is given several times is
read as one text with commas in between.
-/

namespace TaskSync

/-! ## Lists -/

namespace Text

theorem entries_append_comma (s t : String) : entries (s ++ "," ++ t) = entries s ++ entries t := by
  have cut : (s ++ "," ++ t).toList = s.toList ++ ',' :: t.toList := by simp
  simp only [entries, cut, fields_append_sep, List.map_append, List.filter_append]

theorem entries_intercalate (texts : List String) :
    entries (",".intercalate texts) = texts.flatMap entries := by
  induction texts with
  | nil => simp [entries, fields, strip]
  | cons text rest ih =>
    cases rest with
    | nil => simp
    | cons next rest =>
      rw [String.intercalate_cons_cons, entries_append_comma, ih]
      rfl

end Text

/-! ## Words -/

namespace Flag

/-- The word in which a flag stands with its text. -/
def word (flag : Flag) (text : String) : String := "--" ++ flag.long ++ "=" ++ text

theorem toList_word (flag : Flag) (text : String) :
    (flag.word text).toList = '-' :: '-' :: (flag.long.toList ++ '=' :: text.toList) := by
  simp [word]

theorem equals_not_mem : ∀ flag ∈ all, '=' ∉ flag.long.toList := by decide

theorem ofLong?_self : ∀ flag ∈ all, ofLong? ('-' :: '-' :: flag.long.toList) = some flag := by
  decide

theorem ofWord?_word (flag : Flag) (text : String) : ofWord? (flag.word text).toList = none := by
  have long : ofLong? (flag.word text).toList = none := by
    refine List.find?_eq_none.mpr fun other known => ?_
    rw [decide_eq_true_eq]
    intro same
    apply equals_not_mem other known
    rw [toList_word] at same
    simp only [List.cons.injEq, true_and] at same
    simp [← same]
  unfold ofWord?
  split
  · next letter two =>
    rw [toList_word] at two
    simp at two
  · exact long

end Flag

namespace CommandLine

variable {flag : Flag} (known : flag ∈ Flag.all) (valued : flag.takesValue = true) (text : String)

include known valued in
theorem joined?_word : joined? (flag.word text).toList = some (.text flag.setting text) := by
  have plain : ∀ c ∈ '-' :: '-' :: flag.long.toList, decide (c ≠ '=') = true := by
    intro c hc
    rw [decide_eq_true_eq]
    rintro rfl
    simp only [List.mem_cons, Char.reduceEq, false_or] at hc
    exact Flag.equals_not_mem flag known hc
  have before : (flag.word text).toList.takeWhile (· ≠ '=') = '-' :: '-' :: flag.long.toList := by
    rw [Flag.toList_word, ← List.cons_append, ← List.cons_append, List.takeWhile_append_of_pos plain]
    simp
  have after : (flag.word text).toList.dropWhile (· ≠ '=') = '=' :: text.toList := by
    rw [Flag.toList_word, ← List.cons_append, ← List.cons_append, List.dropWhile_append_of_pos plain]
    simp
  unfold joined?
  rw [after, before, Flag.ofLong?_self flag known]
  simp [Flag.toList_word, Option.filter_some, valued]

theorem looksLikeFlag_word : looksLikeFlag (flag.word text).toList = true := by
  rw [Flag.toList_word]
  rfl

theorem word_ne_end : flag.word text ≠ "--" := by
  intro same
  have letters := congrArg String.toList same
  rw [Flag.toList_word] at letters
  simp at letters

include known valued in
theorem readWords_word (many : Option Flag) (strayed : Bool) (rest : List String) :
    readWords many strayed (flag.word text :: rest) =
      (readWords none strayed rest).map (·.addGiven (.text flag.setting text)) := by
  rw [readWords.eq_def]
  simp only [word_ne_end, looksLikeFlag_word, Flag.ofWord?_word, joined?_word known valued,
    if_false, Bool.not_true, Bool.false_eq_true]

theorem read_words {given : List (Flag × String)}
    (valued : ∀ g ∈ given, g.1 ∈ Flag.all ∧ g.1.takesValue = true) :
    read (given.map fun g => g.1.word g.2) =
      .ok (given.map fun g => .text g.1.setting g.2) := by
  have words : readWords none false (given.map fun g => g.1.word g.2) =
      .ok { given := given.map fun g => .text g.1.setting g.2 } := by
    induction given with
    | nil => rfl
    | cons g given ih =>
      obtain ⟨⟨known, takes⟩, rest⟩ := List.forall_mem_cons.mp valued
      rw [List.map_cons, readWords_word known takes, ih rest]
      rfl
  unfold read
  rw [words]
  rfl

end CommandLine

/-! ## Settings -/

theorem Flag.form_ne_switch : ∀ flag ∈ all, flag.takesValue = true → flag.setting.form ≠ .switch := by
  decide

namespace Config

def lookUp? (environment : Environment) (setting : Setting) : Option String :=
  (environment.find? (·.1 = setting.variableName)).map (·.2)

/-- The texts that the flags of a setting are given, in order. -/
def textsFor (given : List (Flag × String)) (setting : Setting) : List String :=
  given.filterMap fun g => if g.1.setting = setting then some g.2 else none

/-- The one text that says what several say: the last one, or for a list all of them with commas in
between. -/
def together (setting : Setting) (texts : List String) : String :=
  if setting.form = .list then ",".intercalate texts else texts.getLastD ""

/-- The second environment says what flags and the first environment say. -/
structure Restates (given : List (Flag × String)) (environment environment' : Environment) :
    Prop where
  flagged : ∀ setting, textsFor given setting ≠ [] →
    lookUp? environment' setting = some (together setting (textsFor given setting))
  others : ∀ setting, textsFor given setting = [] →
    lookUp? environment' setting = lookUp? environment setting

/-- The sources of flags that all stand with a text. -/
def withTexts (given : List (Flag × String)) (environment : Environment) : Sources :=
  ⟨given.map fun g => .text g.1.setting g.2, environment⟩

section

variable {given : List (Flag × String)} {environment environment' : Environment}

theorem flagTexts_withTexts (setting : Setting) :
    (withTexts given environment).flagTexts setting = textsFor given setting := by
  unfold withTexts Sources.flagTexts textsFor
  rw [List.filterMap_map]
  rfl

theorem textsFor_switch (valued : ∀ g ∈ given, g.1 ∈ Flag.all ∧ g.1.takesValue = true)
    {setting : Setting} (switch : setting.form = .switch) : textsFor given setting = [] := by
  unfold textsFor
  rw [List.filterMap_eq_nil_iff]
  intro g hg
  obtain ⟨known, takes⟩ := valued g hg
  rw [if_neg]
  rintro rfl
  exact Flag.form_ne_switch g.1 known takes switch

theorem switch?_withTexts (setting : Setting) : (withTexts given environment).switch? setting =
    (lookUp? environment setting).map Switch.read := by
  unfold Sources.switch? withTexts
  have none : given.filterMap (fun _ => (none : Option Switch)) = [] := by simp
  simp only [List.filterMap_map, Function.comp_def, none]
  rfl

namespace Restates

variable (restates : Restates given environment environment')
include restates

theorem text? {setting : Setting} (form : setting.form = .text) :
    (withTexts given environment).text? setting = (withTexts [] environment').text? setting := by
  unfold Sources.text?
  rw [flagTexts_withTexts, flagTexts_withTexts]
  change _ = lookUp? environment' setting
  cases texts : textsFor given setting with
  | nil => exact (restates.others setting texts).symm
  | cons text rest =>
    rw [restates.flagged setting (by simp [texts]), texts]
    simp [together, form, List.getLast?_eq_some_getLast, List.getLastD_eq_getLast?]

theorem list? {setting : Setting} (form : setting.form = .list) :
    (withTexts given environment).list? setting = (withTexts [] environment').list? setting := by
  unfold Sources.list?
  rw [flagTexts_withTexts, flagTexts_withTexts]
  change _ = (lookUp? environment' setting).map Text.entries
  cases texts : textsFor given setting with
  | nil =>
    rw [restates.others setting texts]
    rfl
  | cons text rest =>
    rw [restates.flagged setting (by simp [texts]), texts]
    simp [together, form, Text.entries_intercalate]

end Restates

/-- **Flags and variables.** Settings given by flags are read as if they were given by their
variables, whatever else the variables say. -/
theorem flags_as_variables (valued : ∀ g ∈ given, g.1 ∈ Flag.all ∧ g.1.takesValue = true)
    (restates : Restates given environment environment') :
    load (given.map fun g => g.1.word g.2) environment = load [] environment' := by
  have same : check (withTexts given environment) = check (withTexts [] environment') := by
    refine check_congr (fun _ => restates.text?) (fun _ => restates.list?) fun s switch => ?_
    rw [switch?_withTexts, switch?_withTexts, restates.others s (textsFor_switch valued switch)]
  have nothing : CommandLine.read [] = .ok [] := rfl
  rw [load_of_read (CommandLine.read_words valued), load_of_read nothing]
  unfold withTexts at same
  rw [same]
  rfl

end

def listenFlag : Flag :=
  ⟨.listen, some 'l', "listen", .many "address", "HOST:PORT to listen on [env: LISTEN]"⟩

def daysFlag : Flag :=
  ⟨.snapshotDays, none, "snapshot-days", .one "n",
    "target days between snapshots [env: SNAPSHOT_DAYS]"⟩

/-- A list given twice, the second time with a blank entry, and a number of days in between. -/
def listenTwice : List (Flag × String) :=
  [(listenFlag, "a:1"), (daysFlag, " 0x7 "), (listenFlag, " ,[b]:2")]

def overruled : Environment :=
  [("LISTEN", "c:3"), ("SNAPSHOT_DAYS", "none"), ("STORAGE", "memory"), ("LOG_PRETTY", "yes")]

def restated : Environment :=
  [("LISTEN", "a:1, ,[b]:2"), ("SNAPSHOT_DAYS", " 0x7 "), ("STORAGE", "memory"),
    ("LOG_PRETTY", "yes")]

theorem flags_as_variables_repeated :
    (∀ g ∈ listenTwice, g.1 ∈ Flag.all ∧ g.1.takesValue = true) ∧
      Restates listenTwice overruled restated ∧
      load (listenTwice.map fun g => g.1.word g.2) overruled = load [] restated ∧
      load [] restated = .ok
        ⟨[⟨"a", 1⟩, ⟨"b", 2⟩], .memory, "./data", none, [], true, 100, 7, .keepAll,
          Http.defaultMaxBody, .info, true⟩ := by
  have valued : ∀ g ∈ listenTwice, g.1 ∈ Flag.all ∧ g.1.takesValue = true := by decide
  have restates : Restates listenTwice overruled restated := by
    constructor
    · intro setting
      cases setting <;> decide
    · intro setting
      cases setting <;> decide
  exact ⟨valued, restates, flags_as_variables valued restates, by decide +kernel⟩

end Config

end TaskSync
