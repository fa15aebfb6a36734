import TaskSync.Proofs.Folding
import TaskSync.Proofs.Requests

/-!
# The last segment of a target

A target whose last segment has its letters in another case leads to the path
with that segment in another case. Nothing else of the path is changed.
-/

namespace TaskSync

theorem folded_eq_cons {cs ds : List Char} {d : Char} (same : folded cs = d :: ds) :
    ∃ c rest, cs = c :: rest ∧ c.toLower = d ∧ folded rest = ds :=
  List.map_eq_cons_iff.mp same

namespace Http

/-! ## Escapes -/

theorem blind_percent : Blind (· = '%') := .of_capitals (by decide +kernel)

theorem blind_hexDigit? : Blind hexDigit? := .of_capitals (by decide +kernel)

namespace Escape

variable {kept : Char → Bool} {run : List Escape} {c high low : Char} {rest : List Char}

theorem readAfter_escape {e : Escape} (digits : ofDigits? high low = some e) :
    readAfter kept run ('%' :: high :: low :: rest) = readAfter kept (run ++ [e]) rest := by
  rw [readAfter, digits]

theorem readAfter_plain (plain : ∀ high low more, c = '%' → rest = high :: low :: more →
    ofDigits? high low = none) :
    readAfter kept run (c :: rest) = settle kept run ++ c :: readAfter kept [] rest := by
  by_cases escape : ∃ high low more, c = '%' ∧ rest = high :: low :: more
  · obtain ⟨high, low, more, rfl, rfl⟩ := escape
    rw [readAfter, plain high low more rfl rfl]
  · rw [readAfter]
    rintro high low more rfl rfl
    exact escape ⟨high, low, more, rfl, rfl⟩

theorem ofDigits?_slash (high low : Char) (slash : high = '/' ∨ low = '/') :
    ofDigits? high low = none := by
  have none : hexDigit? '/' = none := by decide
  rcases slash with rfl | rfl
  · rw [ofDigits?, none]
    rfl
  · rw [ofDigits?, none]
    cases hexDigit? high <;> rfl

theorem readAfter_slash (kept : Char → Bool) (run : List Escape) (cs ds : List Char) :
    readAfter kept run (cs ++ '/' :: ds) = readAfter kept run cs ++ '/' :: readAfter kept [] ds := by
  fun_induction readAfter kept run cs with
  | case1 run high low rest e digits ih =>
    rw [List.cons_append, List.cons_append, List.cons_append, readAfter_escape digits, ih]
  | case2 run high low rest none ih =>
    rw [List.cons_append, List.cons_append, List.cons_append, readAfter_plain, ← List.cons_append,
      ← List.cons_append, ih]
    · simp
    · rintro _ _ _ - ⟨rfl, rfl, rfl⟩
      exact none
  | case3 run c rest other ih =>
    rw [List.cons_append, readAfter_plain, ih]
    · simp
    · -- An escape that is not there before the slash would have the slash among its digits.
      rintro high low more rfl split
      rcases rest with _ | ⟨x, _ | ⟨y, rest⟩⟩
      · exact ofDigits?_slash high low (.inl (List.cons.inj split).1.symm)
      · exact ofDigits?_slash high low (.inr (List.cons.inj (List.cons.inj split).2).1.symm)
      · exact absurd rfl (other x y rest rfl)
  | case4 run =>
    rw [List.nil_append, readAfter_plain]
    nofun

def folded (e : Escape) : Escape := ⟨e.byte, e.high.toLower, e.low.toLower⟩

theorem ofDigits?_folded (high low : Char) :
    ofDigits? high.toLower low.toLower = (ofDigits? high low).map folded := by
  rw [ofDigits?, ofDigits?, blind_hexDigit?, blind_hexDigit?]
  cases hexDigit? high with
  | none => rfl
  | some h => cases hexDigit? low <;> rfl

theorem written_folded (e : Escape) : e.folded.written = TaskSync.folded e.written := rfl

theorem readRun_folded (kept : Char → Bool) (run : List Escape) :
    (readRun kept (run.map folded)).map TaskSync.folded =
      (readRun kept run).map TaskSync.folded := by
  have bytes (run : List Escape) : (run.map folded).map (·.byte) = run.map (·.byte) := by
    rw [List.map_map]
    rfl
  fun_induction readRun kept run with
  | case1 => rw [List.map_nil, readRun]
  | case2 lead rest n ih =>
    have byte : lead.folded.byte = lead.byte := rfl
    rw [List.map_cons, readRun, byte, ← List.map_take, bytes, ← List.map_drop]
    cases Text.charOfBytes? (lead.byte :: (rest.take n).map (·.byte)) with
    | none => rfl
    | some c =>
      have written : TaskSync.folded (if kept c then lead.folded.written else [c]) =
          TaskSync.folded (if kept c then lead.written else [c]) := by
        split
        · rw [written_folded, folded_folded]
        · rfl
      have append (ds : List Char) (more : Option (List Char)) :
          (more.bind fun more => some (ds ++ more)).map TaskSync.folded =
            (more.map TaskSync.folded).map (TaskSync.folded ds ++ ·) := by
        cases more with
        | none => rfl
        | some more => exact congrArg some (folded_append ds more)
      simp only [Option.bind_some, Option.bind_eq_bind, Option.pure_def]
      rw [append, append, ih, written]

theorem settle_folded (kept : Char → Bool) (run : List Escape) :
    TaskSync.folded (settle kept (run.map folded)) = TaskSync.folded (settle kept run) := by
  have same := readRun_folded kept run
  unfold settle
  cases hrun : readRun kept run with
  | none =>
    rw [hrun, Option.map_none, Option.map_eq_none_iff] at same
    have digits (e : Escape) : e.folded.written.map Char.toLower = e.written.map Char.toLower :=
      folded_folded e.written
    rw [same]
    simp only [Option.getD_none, TaskSync.folded, List.map_flatMap, List.flatMap_map, digits]
  | some cs =>
    rw [hrun, Option.map_some, Option.map_eq_some_iff] at same
    obtain ⟨ds, hds, same⟩ := same
    rw [hds]
    exact same

theorem readAfter_folded (kept : Char → Bool) (run : List Escape) (cs : List Char) :
    TaskSync.folded (readAfter kept (run.map folded) (TaskSync.folded cs)) =
      TaskSync.folded (readAfter kept run cs) := by
  -- The escapes read so far differ only in the case of their digits, so that they have the same bytes.
  fun_induction readAfter kept run cs with
  | case1 run high low rest e digits ih =>
    have lower : ofDigits? high.toLower low.toLower = some e.folded := by
      rw [ofDigits?_folded, digits]
      rfl
    rw [List.map_append] at ih
    exact (congrArg TaskSync.folded (readAfter_escape lower)).trans ih
  | case2 run high low rest none ih =>
    change TaskSync.folded (readAfter kept _ ('%' :: TaskSync.folded (high :: low :: rest))) = _
    rw [readAfter_plain, folded_append, folded_append, settle_folded]
    · exact congrArg _ (congrArg ('%' :: ·) ih)
    · rintro _ _ _ - ⟨rfl, rfl, rfl⟩
      rw [ofDigits?_folded, none]
      rfl
  | case3 run c rest other ih =>
    change TaskSync.folded (readAfter kept _ (c.toLower :: TaskSync.folded rest)) = _
    rw [readAfter_plain, folded_append, folded_append, settle_folded]
    · exact congrArg _ (congrArg₂ (· :: ·) (blind_toLower c) ih)
    · intro high low more escape split
      obtain ⟨x, _, rfl, -, split⟩ := folded_eq_cons split
      obtain ⟨y, _, rfl, -, -⟩ := folded_eq_cons split
      exact absurd rfl (other x y _ ((blind_percent c).mp escape))
  | case4 run =>
    exact settle_folded kept run

end Escape

theorem unescape_slash (kept : Char → Bool) (cs ds : List Char) :
    unescape kept (cs ++ '/' :: ds) = unescape kept cs ++ '/' :: unescape kept ds :=
  Escape.readAfter_slash kept [] cs ds

theorem unescape_folded (kept : Char → Bool) (cs : List Char) :
    folded (unescape kept (folded cs)) = folded (unescape kept cs) :=
  Escape.readAfter_folded kept [] cs

theorem escape_folded {chosen : Char → Bool} (blind : Blind chosen)
    (caseless : ∀ c, chosen c = true → c.toLower = c) (cs : List Char) :
    folded (escape chosen (folded cs)) = folded (escape chosen cs) := by
  unfold escape folded
  rw [List.flatMap_map, List.map_flatMap, List.map_flatMap]
  congr 1
  funext c
  rw [blind c]
  split
  · next escaped => rw [caseless c escaped]
  · exact congrArg (· :: []) (blind_toLower c)

namespace Target

theorem doublePercent_plain {c : Char} {rest : List Char}
    (plain : ∀ more, c = '%' → rest ≠ '2' :: '5' :: more) :
    doublePercent (c :: rest) = c :: doublePercent rest := by
  rw [doublePercent]
  rintro more rfl rfl
  exact plain more rfl rfl

theorem doublePercent_slash (cs ds : List Char) :
    doublePercent (cs ++ '/' :: ds) = doublePercent cs ++ '/' :: doublePercent ds := by
  fun_induction doublePercent cs with
  | case1 rest ih =>
    simp only [List.cons_append, doublePercent, ih]
  | case2 c rest other ih =>
    rw [List.cons_append, doublePercent_plain, ih, List.cons_append]
    rintro more rfl split
    rcases rest with _ | ⟨x, _ | ⟨y, rest⟩⟩
    · cases split
    · cases split
    · cases split
      exact other rest rfl rfl
  | case3 =>
    exact doublePercent_plain fun _ slash => absurd slash (by decide)

theorem doublePercent_folded (cs : List Char) :
    doublePercent (folded cs) = folded (doublePercent cs) := by
  have two : Blind (· = '2') := .of_capitals (by decide +kernel)
  have five : Blind (· = '5') := .of_capitals (by decide +kernel)
  fun_induction doublePercent cs with
  | case1 rest ih =>
    change doublePercent ('%' :: '2' :: '5' :: folded rest) = _
    rw [doublePercent, ih]
    rfl
  | case2 c rest other ih =>
    change doublePercent (c.toLower :: folded rest) = _
    rw [doublePercent_plain, ih]
    · rfl
    · intro more percent split
      obtain ⟨x, _, rfl, hx, split⟩ := folded_eq_cons split
      obtain ⟨y, rest, rfl, hy, -⟩ := folded_eq_cons split
      obtain ⟨rfl, rfl⟩ : x = '2' ∧ y = '5' := ⟨(two x).mp hx, (five y).mp hy⟩
      exact other rest ((blind_percent c).mp percent) rfl
  | case3 => rfl

theorem plainDots_folded (cs : List Char) : plainDots (folded cs) = folded (plainDots cs) := by
  have two : Blind (· = '2') := .of_capitals (by decide +kernel)
  have dot : Blind fun e => e = 'e' || e = 'E' := .of_capitals (by decide +kernel)
  fun_induction plainDots cs with
  | case1 e rest isDot ih =>
    change plainDots ('%' :: '2' :: e.toLower :: folded rest) = _
    rw [plainDots, if_pos ((dot e).trans isDot), ih]
    rfl
  | case2 e rest other ih =>
    change plainDots ('%' :: '2' :: e.toLower :: folded rest) = _
    rw [plainDots, if_neg (fun isDot => other ((dot e).symm.trans isDot))]
    exact congrArg (fun dots => '%' :: '2' :: dots) ih
  | case3 c rest other ih =>
    change plainDots (c.toLower :: folded rest) = _
    rw [plainDots, ih]
    · rfl
    · intro e more percent split
      obtain ⟨x, _, rfl, hx, split⟩ := folded_eq_cons split
      obtain ⟨y, rest, rfl, -, -⟩ := folded_eq_cons split
      obtain rfl := (two x).mp hx
      exact other y rest ((blind_percent c).mp percent) rfl
  | case4 => rfl

theorem folded_eq_dots {n : Nat} {cs : List Char} :
    folded cs = List.replicate n '.' ↔ cs = List.replicate n '.' := by
  have dot (c : Char) : (c.toLower = '.') = (c = '.') :=
    Blind.of_capitals (f := (· = '.')) (by decide +kernel) c
  rw [List.eq_replicate_iff, List.eq_replicate_iff, folded, List.length_map]
  simp only [List.forall_mem_map, dot]

theorem isUp_folded (segment : List Char) : isUp (folded segment) = isUp segment := by
  unfold isUp
  rw [plainDots_folded]
  exact decide_eq_decide.mpr (folded_eq_dots (n := 2))

theorem isHere_folded (segment : List Char) : isHere (folded segment) = isHere segment := by
  unfold isHere
  rw [plainDots_folded]
  exact decide_eq_decide.mpr (folded_eq_dots (n := 1))

/-! ## Paths -/

/-- The last segment that follows a slash, if no other slash does. -/
def lastSegment (rest : List Char) : List Char := (clean rest).takeWhile fun c => !startsQuery c

def written (segment : List Char) : List Char :=
  unescape isReserved (doublePercent (escape isEscaped segment))

theorem mem_takeWhile_prefix {p : Char → Bool} {stop c : Char} (stops : p stop = false)
    {start cs more : List Char} (isPrefix : start <+: cs ++ stop :: more)
    (mem : c ∈ start.takeWhile p) : c ∈ cs := by
  induction cs generalizing start with
  | nil =>
    rcases List.prefix_cons_iff.mp isPrefix with rfl | ⟨rest, rfl, -⟩
    · cases mem
    · rw [List.takeWhile_cons_of_neg (by simp [stops])] at mem
      cases mem
  | cons d cs ih =>
    rcases List.prefix_cons_iff.mp isPrefix with rfl | ⟨rest, rfl, within⟩
    · cases mem
    · rw [List.takeWhile_cons] at mem
      split at mem
      · rcases List.mem_cons.mp mem with rfl | mem
        · exact List.mem_cons_self
        · exact List.mem_cons_of_mem _ (ih within mem)
      · cases mem

theorem mem_lastSegment {segment after : List Char}
    (query : ∀ c ∈ after.head?, startsQuery c = true) {c : Char}
    (mem : c ∈ lastSegment (segment ++ after)) : c ∈ segment := by
  unfold lastSegment clean at mem
  rw [List.takeWhile_filter, List.mem_filter] at mem
  have start : ((segment ++ after).reverse.dropWhile fun c => isControl c || c = ' ').reverse <+:
      segment ++ after := by
    simpa using List.reverse_prefix.mpr (List.dropWhile_suffix (l := (segment ++ after).reverse)
      fun c => isControl c || c = ' ')
  cases after with
  | nil =>
    rw [List.append_nil] at start mem
    exact start.subset (List.takeWhile_subset _ mem.1)
  | cons stop more =>
    refine mem_takeWhile_prefix ?_ start mem.1
    obtain rfl | rfl : stop = '?' ∨ stop = '#' := by simpa [startsQuery] using query stop rfl
    all_goals decide

theorem lastSegment_folded (rest : List Char) :
    lastSegment (folded rest) = folded (lastSegment rest) := by
  have blank : Blind fun c => isControl c || c = ' ' := .of_capitals (by decide +kernel)
  have kept : Blind fun c => !(['\t', '\n', '\r'].contains c) := .of_capitals (by decide +kernel)
  have query : Blind fun c => !startsQuery c := .of_capitals (by decide +kernel)
  have reverse (cs : List Char) : (folded cs).reverse = folded cs.reverse := List.map_reverse.symm
  unfold lastSegment clean
  rw [reverse, dropWhile_folded blank, reverse, filter_folded kept, takeWhile_folded query]

theorem written_folded (segment : List Char) :
    folded (written (folded segment)) = folded (written segment) := by
  have blind : Blind isEscaped := .of_capitals (by decide +kernel)
  have caseless : ∀ c, isEscaped c = true → c.toLower = c := by
    intro c escaped
    cases upper : c.isUpper with
    | true =>
      have plain : isEscaped c = false :=
        forall_capitals (p := fun c => isEscaped c = false) (by decide +kernel) upper
      cases escaped.symm.trans plain
    | false => exact toLower_eq_self upper
  unfold written
  rw [← unescape_folded, ← doublePercent_folded, escape_folded blind caseless,
    doublePercent_folded, unescape_folded]

theorem dropWhile_stop {p : Char → Bool} {c : Char} (stop : p c = false) (cs ds : List Char) :
    (cs ++ c :: ds).dropWhile p = cs.dropWhile p ++ c :: ds := by
  rw [List.dropWhile_append]
  split
  · next all =>
    rw [List.isEmpty_iff.mp all, List.dropWhile_cons_of_neg (by simp [stop]), List.nil_append]
  · rfl

section

variable {before : List Char} {slash : Char} (isSlash : isSlash slash = true)
include isSlash

theorem clean_slash (before rest : List Char) : clean (before ++ slash :: rest) =
    before.filter (fun c => !(['\t', '\n', '\r'].contains c)) ++ slash :: clean rest := by
  obtain rfl | rfl : slash = '/' ∨ slash = '\\' := by simpa [Target.isSlash] using isSlash
  all_goals
    unfold clean
    rw [List.reverse_append, List.reverse_cons, List.append_assoc, List.singleton_append,
      dropWhile_stop (by decide)]
    simp

theorem pathPart_slash (path : ∀ c ∈ before, startsQuery c = false) :
    ∃ root, ∀ rest, pathPart (before ++ slash :: rest) =
      root ++ '/' :: (rest.takeWhile fun c => !startsQuery c).map
        fun c => if Target.isSlash c then '/' else c := by
  let host (c : Char) : Bool := !Target.isSlash c && !startsQuery c
  have inPath : ∀ c ∈ before.dropWhile host, startsQuery c = false :=
    fun c hc => path c ((List.dropWhile_sublist host).mem hc)
  have slashInPath : startsQuery slash = false := by
    obtain rfl | rfl : slash = '/' ∨ slash = '\\' := by simpa [Target.isSlash] using isSlash
    all_goals decide
  refine ⟨(before.dropWhile host).map fun c => if Target.isSlash c then '/' else c, fun rest => ?_⟩
  unfold pathPart
  rw [dropWhile_stop (p := host) (by simp [host, isSlash]), List.takeWhile_append_of_pos,
    List.takeWhile_cons_of_pos, List.map_append, List.map_cons, if_pos isSlash]
  · simp [slashInPath]
  · simpa using inPath

end

theorem follow_append (done dirs : List (List Char)) :
    ∃ followed, ∀ segment, follow done (dirs ++ [segment]) = follow followed [segment] := by
  induction dirs generalizing done with
  | nil => exact ⟨done, fun _ => rfl⟩
  | cons dir dirs ih =>
    obtain ⟨followed, same⟩ :=
      ih (if isUp dir then done.tail else if isHere dir then done else dir :: done)
    refine ⟨followed, fun segment => ?_⟩
    have more : (dirs ++ [segment]).isEmpty = false := by simp
    rw [List.cons_append, follow, more, ← same]
    rfl

theorem fields_tail (root : List Char) : ∃ dirs, ∀ segment, '/' ∉ segment →
    Text.fields '/' (root ++ '/' :: segment).tail = dirs ++ [segment] := by
  cases root with
  | nil => exact ⟨[], fun segment none => Text.fields_eq_self none⟩
  | cons c root =>
    refine ⟨Text.fields '/' root, fun segment none => ?_⟩
    rw [List.cons_append, List.tail_cons, Text.fields_append_sep, Text.fields_eq_self none]

theorem normalize_slash (root : List Char) :
    ∃ up here base : List Char, ∀ segment, '/' ∉ segment →
      normalize (root ++ '/' :: segment) = if isUp segment then up else if isHere segment then here
        else base ++ '/' :: escape isEscaped segment := by
  let write (segment : List Char) : List Char := '/' :: escape isEscaped segment
  obtain ⟨dirs, fields⟩ := fields_tail root
  obtain ⟨followed, same⟩ := follow_append [] dirs
  refine ⟨([] :: followed.tail).reverse.flatMap write, ([] :: followed).reverse.flatMap write,
    followed.reverse.flatMap write, fun segment none => ?_⟩
  have last : normalize (root ++ '/' :: segment) =
      (if isUp segment then [] :: followed.tail else if isHere segment then [] :: followed
        else segment :: followed).reverse.flatMap write := by
    rw [normalize, fields segment none, same]
    rfl
  rw [last]
  split
  · rfl
  · split
    · rfl
    · rw [List.reverse_cons, List.flatMap_append, List.flatMap_singleton]

theorem map_eq_self {cs : List Char} (none : ∀ c ∈ cs, isSlash c = false) :
    '/' ∉ cs ∧ cs.map (fun c => if isSlash c then '/' else c) = cs := by
  refine ⟨fun slash => absurd (none '/' slash) (by decide), ?_⟩
  refine (List.map_congr_left fun c hc => ?_).trans (List.map_id' cs)
  rw [none c hc]
  rfl

/-- Where a target leads by its last segment, which may lead up or stay. -/
theorem path_slash {before : List Char} {slash : Char} (isSlash : isSlash slash = true)
    (path : ∀ c ∈ before, startsQuery c = false) :
    ∃ up here base : List Char, ∀ rest, (∀ c ∈ lastSegment rest, Target.isSlash c = false) →
      Target.path (String.ofList (before ++ slash :: rest)) =
        if isUp (lastSegment rest) then up else if isHere (lastSegment rest) then here
        else base ++ '/' :: written (lastSegment rest) := by
  have cleaned : ∀ c ∈ before.filter (fun c => !(['\t', '\n', '\r'].contains c)),
      startsQuery c = false := fun c hc => path c (List.mem_filter.mp hc).1
  obtain ⟨root, pathPart⟩ := pathPart_slash isSlash cleaned
  obtain ⟨up, here, base, normalize⟩ := normalize_slash root
  refine ⟨unescape isReserved (doublePercent up), unescape isReserved (doublePercent here),
    unescape isReserved (doublePercent base), fun rest none => ?_⟩
  obtain ⟨single, plain⟩ := map_eq_self none
  have last : (clean rest).takeWhile (fun c => !startsQuery c) = lastSegment rest := rfl
  rw [Target.path, String.toList_ofList, clean_slash isSlash, pathPart, last, plain,
    normalize _ single]
  split
  · rfl
  · split
    · rfl
    · rw [doublePercent_slash, unescape_slash, written]

/-- A target leads to the same path whatever the case of the letters in its last segment, but for
the case of the letters there. -/
theorem path_recased {before : List Char} {slash : Char} (isSlash : isSlash slash = true)
    (path : ∀ c ∈ before, startsQuery c = false) {rest rest' : List Char}
    (single : ∀ c ∈ lastSegment rest, Target.isSlash c = false)
    (recased : folded rest = folded rest') :
    Target.path (String.ofList (before ++ slash :: rest)) =
        Target.path (String.ofList (before ++ slash :: rest')) ∨
      ∃ segment segment', folded segment = folded segment' ∧
        Target.path (String.ofList (before ++ slash :: rest)) =
          Target.path (String.ofList (before ++ [slash])) ++ segment ∧
        Target.path (String.ofList (before ++ slash :: rest')) =
          Target.path (String.ofList (before ++ [slash])) ++ segment' := by
  obtain ⟨up, here, base, leads⟩ := path_slash isSlash path
  have last : folded (lastSegment rest) = folded (lastSegment rest') := by
    rw [← lastSegment_folded, recased, lastSegment_folded]
  have single' : ∀ c ∈ lastSegment rest', Target.isSlash c = false := by
    have blind : Blind Target.isSlash := .of_capitals (by decide +kernel)
    simp only [← Bool.not_eq_true, ← List.any_eq_false] at single ⊢
    rw [← any_folded blind, ← last, any_folded blind]
    exact single
  have ups : isUp (lastSegment rest) = isUp (lastSegment rest') := by
    rw [← isUp_folded, last, isUp_folded]
  have heres : isHere (lastSegment rest) = isHere (lastSegment rest') := by
    rw [← isHere_folded, last, isHere_folded]
  rw [leads rest single, leads rest' single', ups, heres]
  split
  · exact .inl rfl
  · split
    · exact .inl rfl
    · refine .inr ⟨written (lastSegment rest), written (lastSegment rest'), ?_, ?_⟩
      · rw [← written_folded, last, written_folded]
      · have empty : written (lastSegment []) = [] := unescape_eq_self (by decide)
        rw [leads [] (List.forall_mem_nil _), if_neg (by decide), if_neg (by decide), empty]
        simp

end Target

end Http

end TaskSync
