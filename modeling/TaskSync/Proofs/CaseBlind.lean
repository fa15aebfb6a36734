import Mathlib.Data.List.Forall2
import TaskSync.Proofs.Lockstep
import TaskSync.Proofs.Stored
import TaskSync.Proofs.Targets

/-!
# Ids in either case

Requests that write their ids in another case are answered alike, and leave the
same store. Ids are stored in lower case only.
-/

namespace TaskSync

namespace Http

/-! ## Routes -/

def Endpoint.lowered : Endpoint → Endpoint
  | addVersion parent => addVersion (asciiLower parent)
  | getChildVersion parent => getChildVersion (asciiLower parent)
  | addSnapshot version => addSnapshot (asciiLower version)
  | getSnapshot => getSnapshot

def Route.lowered : Route → Route
  | banner => banner
  | protocol endpoint => protocol endpoint.lowered

namespace Route

variable {method : String}

theorem parameter_folded (segment : List Char) :
    asciiLower (parameter (folded segment)) = asciiLower (parameter segment) := by
  have same := unescape_folded (fun _ => false) segment
  unfold folded at same
  rw [asciiLower, asciiLower, parameter, parameter, String.toList_ofList, String.toList_ofList]
  exact congrArg String.ofList same

theorem versioned?_folded (name : String) (version : List Char) :
    (versioned? method name (folded version)).map Endpoint.lowered =
      (versioned? method name version).map Endpoint.lowered := by
  have empty : (folded version).isEmpty = version.isEmpty := by cases version <;> rfl
  have same := parameter_folded version
  unfold versioned?
  rw [empty]
  repeat' split
  all_goals simp [Endpoint.lowered, same]

theorem endpoint?_folded (name : List Char) (rest : List (List Char)) :
    (endpoint? method (name :: rest.map folded)).map Endpoint.lowered =
      (endpoint? method (name :: rest)).map Endpoint.lowered := by
  rcases rest with _ | ⟨version, _ | ⟨more, rest⟩⟩
  · rfl
  · exact versioned?_folded (String.ofList name) version
  · rfl

/-- The path of an endpoint of a name, before the version. -/
def versions (name : String) : List Char := "/v1/client/".toList ++ name.toList ++ ['/']

variable {name : String} (plain : '/' ∉ name.toList)
include plain

theorem segments_versions (version : List Char) : segments (versions name ++ version) =
    [] :: ['v', '1'] :: "client".toList :: name.toList :: Text.fields '/' version := by
  have root : Text.fields '/' ("/v1/client/".toList ++ name.toList) =
      [] :: ['v', '1'] :: "client".toList :: Text.fields '/' name.toList := by
    simp [Text.fields]
  have last := Text.fields_append_sep '/' ("/v1/client/".toList ++ name.toList) version
  unfold segments versions
  rw [List.append_assoc, List.singleton_append, last, root, Text.fields_eq_self plain]
  simp only [List.cons_append, List.nil_append]

theorem find?_folded (version : List Char) :
    (find? method (versions name ++ folded version)).map lowered =
      (find? method (versions name ++ version)).map lowered := by
  have slash : Blind (· = '/') := .of_capitals (by decide +kernel)
  have same := @endpoint?_folded method name.toList (Text.fields '/' version)
  have lowers (endpoint : Option Endpoint) : (endpoint.map Route.protocol).map lowered =
      (endpoint.map Endpoint.lowered).map Route.protocol := by
    cases endpoint <;> rfl
  unfold find?
  rw [segments_versions plain, segments_versions plain, Text.fields_folded slash]
  dsimp only
  rw [if_pos (by decide), if_pos (by decide), lowers, lowers, same]

theorem isGuarded_versions (version : List Char) : isGuarded (versions name ++ version) = true := by
  unfold isGuarded
  rw [segments_versions plain]
  rfl

end Route

/-! ## Targets -/

namespace Target

/-- Targets that are the same but for the case of the letters in the version that they name. -/
inductive Recased : String → String → Prop where
  | same (target : String) : Recased target target
  | version {name : String} {before segment segment' after : List Char} {slash : Char}
      (versioned : name ∈ ["add-version", "get-child-version", "add-snapshot"])
      (path : Target.path (String.ofList (before ++ [slash])) = Route.versions name)
      (isSlash : isSlash slash = true) (inPath : ∀ c ∈ before, startsQuery c = false)
      (single : ∀ c ∈ segment, Target.isSlash c = false)
      (query : ∀ c ∈ after.head?, startsQuery c = true)
      (recased : folded segment = folded segment') :
      Recased (String.ofList (before ++ slash :: (segment ++ after)))
        (String.ofList (before ++ slash :: (segment' ++ after)))

/-- Recased targets lead to one path, or to paths of one name and of recased versions. -/
theorem Recased.paths {target target' : String} (recased : Recased target target') :
    path target = path target' ∨
      ∃ name version version', '/' ∉ String.toList name ∧ folded version = folded version' ∧
        path target = Route.versions name ++ version ∧
          path target' = Route.versions name ++ version' := by
  cases recased with
  | same target => exact .inl rfl
  | @version name before segment segment' after slash versioned path isSlash inPath single query
      recased =>
    have single : ∀ c ∈ lastSegment (segment ++ after), Target.isSlash c = false :=
      fun c hc => single c (mem_lastSegment query hc)
    have same : folded (segment ++ after) = folded (segment' ++ after) := by
      rw [folded_append, recased, folded_append]
    have plain : '/' ∉ name.toList := by
      simp only [List.mem_cons, List.not_mem_nil, or_false] at versioned
      rcases versioned with rfl | rfl | rfl <;> decide
    rcases path_recased isSlash inPath single same with one | ⟨version, version', same, leads, leads'⟩
    · exact .inl one
    · rw [path] at leads leads'
      exact .inr ⟨name, version, version', plain, same, leads, leads'⟩

end Target

/-! ## Requests -/

theorem asciiLower_eq_empty_iff {s : String} : asciiLower s = "" ↔ s = "" := by
  rw [asciiLower, String.ofList_eq_empty_iff, List.map_eq_nil_iff, String.toList_eq_nil_iff]

/-- Requests that are the same but for the case of letters in their ids. -/
structure Request.Recased (request request' : Request) : Prop where
  method : request.method = request'.method
  target : Target.Recased request.target request'.target
  client : (request.headers.get? "x-client-id").map asciiLower =
    (request'.headers.get? "x-client-id").map asciiLower
  others : ∀ name, name ≠ "x-client-id" → request.headers.get? name = request'.headers.get? name
  body : request.body = request'.body

namespace Request.Recased

variable {request request' : Request} (recased : request.Recased request')
include recased

theorem clients : request.headers.filled? "x-client-id" = none ∧
      request'.headers.filled? "x-client-id" = none ∨
    ∃ client client', request.headers.filled? "x-client-id" = some client ∧
      request'.headers.filled? "x-client-id" = some client' ∧
        asciiLower client = asciiLower client' := by
  have same := recased.client
  unfold Headers.filled?
  cases given : request.headers.get? "x-client-id" with
  | none =>
    rw [given, Option.map_none, eq_comm, Option.map_eq_none_iff] at same
    exact .inl ⟨rfl, by rw [same]; rfl⟩
  | some client =>
    rw [given, Option.map_some, eq_comm, Option.map_eq_some_iff] at same
    obtain ⟨client', given', same⟩ := same
    rw [given']
    by_cases empty : client = ""
    · have empty' : client' = "" := by
        rwa [← asciiLower_eq_empty_iff, same, asciiLower_eq_empty_iff]
      exact .inl (by simp [empty, empty'])
    · have filled : client' ≠ "" := by
        rwa [ne_eq, ← asciiLower_eq_empty_iff, same, asciiLower_eq_empty_iff]
      exact .inr ⟨client, client', by simp [empty], by simp [filled], same.symm⟩

theorem admits (list : Allowlist) :
    list.admits request.headers = list.admits request'.headers := by
  unfold Allowlist.admits
  rcases recased.clients with ⟨none, none'⟩ | ⟨client, client', given, given', same⟩
  · rw [none, none']
  · rw [given, given']
    dsimp only
    rw [← Text.lower_asciiLower client, same, Text.lower_asciiLower]

theorem exceeds (limit : Number) : exceeds limit request = exceeds limit request' := by
  unfold Http.exceeds announcedLength?
  rw [recased.body, recased.others _ (by decide), recased.others _ (by decide)]

theorem read {endpoint endpoint' : Endpoint} (same : endpoint.lowered = endpoint'.lowered) :
    Command.read request endpoint = Command.read request' endpoint' := by
  have client : Command.readClient request.headers = Command.readClient request'.headers := by
    unfold Command.readClient
    rcases recased.clients with ⟨none, none'⟩ | ⟨client, client', given, given', same⟩
    · rw [none, none']
    · rw [given, given']
      dsimp only
      rw [← Uuid.read?_asciiLower client, same, Uuid.read?_asciiLower]
  have version {value value' : String} (same : asciiLower value = asciiLower value')
      (place : String) : Command.readVersion place value = Command.readVersion place value' := by
    unfold Command.readVersion
    rw [← Uuid.read?_asciiLower value, same, Uuid.read?_asciiLower]
  have body (mediaType what : String) :
      Command.readBody mediaType what request = Command.readBody mediaType what request' := by
    unfold Command.readBody Headers.filled?
    rw [recased.body, recased.others _ (by decide)]
  cases endpoint with
  | addVersion value =>
    cases endpoint' with
    | addVersion value' =>
      simp only [Command.read, client, version (Endpoint.addVersion.inj same), body]
    | _ => cases same
  | getChildVersion value =>
    cases endpoint' with
    | getChildVersion value' =>
      simp only [Command.read, client, version (Endpoint.getChildVersion.inj same)]
    | _ => cases same
  | addSnapshot value =>
    cases endpoint' with
    | addSnapshot value' =>
      simp only [Command.read, client, version (Endpoint.addSnapshot.inj same), body]
    | _ => cases same
  | getSnapshot =>
    cases endpoint' with
    | getSnapshot => simp only [Command.read, client]
    | _ => cases same

theorem destination :
    (App.destination request).method = (App.destination request').method ∧
      (App.destination request).route.map Route.lowered =
        (App.destination request').route.map Route.lowered ∧
      Route.isGuarded (App.destination request).path =
        Route.isGuarded (App.destination request').path := by
  have verb : request.verb = request'.verb := by rw [verb, verb, recased.method]
  unfold App.destination
  rw [verb]
  rcases recased.target.paths with same | ⟨name, version, version', plain, same, leads, leads'⟩
  · rw [same]
    exact ⟨rfl, rfl, rfl⟩
  · rw [leads, leads']
    refine ⟨rfl, ?_, ?_⟩
    · rw [← Route.find?_folded plain, same, Route.find?_folded plain]
    · rw [Route.isGuarded_versions plain, Route.isGuarded_versions plain]

theorem serve (app : App) :
    Matches (fun _ => Eq) Eq (app.serve request (App.destination request))
      (app.serve request' (App.destination request')) := by
  obtain ⟨-, route, -⟩ := recased.destination
  unfold App.serve
  cases given : (App.destination request).route with
  | none =>
    rw [given, Option.map_none, eq_comm, Option.map_eq_none_iff] at route
    rw [route]
    exact .done rfl
  | some goal =>
    rw [given, Option.map_some, eq_comm, Option.map_eq_some_iff] at route
    obtain ⟨goal', given', same⟩ := route
    rw [given']
    cases goal with
    | banner =>
      cases goal' with
      | banner => exact .done rfl
      | protocol endpoint => cases same
    | protocol endpoint =>
      cases goal' with
      | banner => cases same
      | protocol endpoint' =>
        dsimp only
        rw [recased.read (Route.protocol.inj same).symm]
        cases Command.read request' endpoint' with
        | error refusal => exact .done rfl
        | ok command =>
          refine .settle _ _ _ _ ((Matches.refl _).mono ?_)
          rintro result _ rfl
          exact .refl result

theorem respond (app : App) :
    Matches (fun _ => Eq) Eq (app.respond request) (app.respond request') := by
  obtain ⟨method, -, guarded⟩ := recased.destination
  refine Matches.respond (fun _ _ same => same) ?_ method ?_
  · rw [App.requestId?, App.requestId?, recased.others _ (by decide)]
  · unfold App.guarded
    rw [guarded, recased.admits, recased.exceeds]
    split
    · exact recased.serve app
    · split
      · exact .done rfl
      · split
        · exact .done rfl
        · exact recased.serve app

end Request.Recased

end Http

namespace Scenario

open Store
open Http (App Response)

/-! ## Runs -/

theorem forall₂_getElem? {α β : Type} {R : α → β → Prop} {as : List α} {bs : List β}
    (related : List.Forall₂ R as bs) (i : Nat) :
    as[i]? = none ∧ bs[i]? = none ∨ ∃ a b, as[i]? = some a ∧ bs[i]? = some b ∧ R a b := by
  induction related generalizing i with
  | nil => exact .inl ⟨rfl, rfl⟩
  | @cons a b as bs first _ ih =>
    cases i with
    | zero => exact .inr ⟨a, b, rfl, rfl, first⟩
    | succ i => exact ih i

theorem forall₂_set {α β : Type} {R : α → β → Prop} {as : List α} {bs : List β} {a : α} {b : β}
    (related : List.Forall₂ R as bs) (own : R a b) (i : Nat) :
    List.Forall₂ R (as.set i a) (bs.set i b) := by
  induction related generalizing i with
  | nil => exact .nil
  | cons first rest ih =>
    cases i with
    | zero => exact .cons own rest
    | succ i => exact .cons first (ih i)

namespace Traffic

variable {α : Type}

/-- The same store, with conversations that go on in lockstep. -/
structure InStep (t t' : Traffic α) : Prop where
  store : t.store = t'.store
  conversations : List.Forall₂ (Matches (fun _ => Eq) Eq) t.conversations t'.conversations

theorem InStep.turn {t t' : Traffic α} (inStep : t.InStep t') (moment : Moment) :
    (t.turn moment).InStep (t'.turn moment) := by
  obtain ⟨store, conversations⟩ := inStep
  unfold Traffic.turn
  rcases forall₂_getElem? conversations moment.request with
    ⟨none, none'⟩ | ⟨d, d', found, found', matched⟩
  · rw [none, none']
    exact ⟨store, conversations⟩
  · rw [found, found', ← store]
    -- The question is the same and so is the store, so that both get the same answer.
    cases matched with
    | done ends => exact ⟨store, conversations⟩
    | ask next => exact ⟨rfl, forall₂_set conversations (next _ _ rfl) moment.request⟩
    | note entry entry' next => exact ⟨rfl, forall₂_set conversations next moment.request⟩

theorem InStep.run {start : Backing} {conversations conversations' : List (Conversation α)}
    (matched : List.Forall₂ (Matches (fun _ => Eq) Eq) conversations conversations')
    (moments : List Moment) :
    (Traffic.run start conversations moments).InStep (.run start conversations' moments) := by
  induction moments using List.reverseRecOn with
  | nil => exact ⟨rfl, matched⟩
  | append_singleton moments moment ih =>
    rw [run_snoc, run_snoc]
    exact ih.turn moment

theorem InStep.done_iff {t t' : Traffic α} (inStep : t.InStep t') (i : Nat) (value : α) :
    t.Done i value ↔ t'.Done i value := by
  unfold Done
  rcases forall₂_getElem? inStep.conversations i with
    ⟨none, none'⟩ | ⟨d, d', found, found', matched⟩
  · rw [none, none']
  · rw [found, found']
    cases matched with
    | done ends => rw [ends]
    | ask | note => exact iff_of_false nofun nofun

end Traffic

theorem lower_of_asks {app : App} {request : Http.Request} {command : Http.Command}
    (asked : app.asks request = some command) {id : String} (part : .id id ∈ command.parts) :
    Uuid.read? id = some id := by
  obtain ⟨endpoint, client, -, reads, means⟩ := App.means_of_asks asked
  have own : Uuid.read? client = some client := by
    unfold Http.Command.readClient at reads
    split at reads
    · cases reads
    · split at reads
      · cases reads
      · next client' read =>
        obtain rfl := Except.ok.inj reads
        exact Uuid.read?_self read
  cases means with
  | addVersion names | getChildVersion names | addSnapshot names =>
    have version := Uuid.read?_self names
    simp only [Http.Command.parts, List.mem_cons, Part.id.injEq, reduceCtorEq, List.not_mem_nil,
      or_false] at part
    rcases part with rfl | rfl
    · exact own
    · exact version
  | getSnapshot =>
    obtain rfl := Part.id.inj (List.mem_singleton.mp part)
    exact own

theorem Backing.IsNew.parts {start : Backing} (new : start.IsNew) : start.parts = [] := by
  cases new <;> rfl

/-- What two runs have in common that differ in the case of letters in their ids. -/
structure CaseBlind (start : Backing) (t t' : Traffic Response) (moments : List Moment) :
    Prop where
  store : t.store = t'.store
  answers : ∀ i response, t.Done i response ↔ t'.Done i response
  /-- From a new store on, all ids that are stored are in lower case, if those drawn are. -/
  lower : start.IsNew → (∀ moment ∈ moments, Uuid.read? moment.id = some moment.id) →
    ∀ id, .id id ∈ t.store.parts → Uuid.read? id = some id

/-- **Ids in either case.** Requests whose client ids and version ids are written in another case,
by clients listed in another case, are answered the same and leave the same store. -/
theorem ids_case_blind {entries entries' : List String}
    (listed : entries.map Http.asciiLower = entries'.map Http.asciiLower)
    {requests requests' : List Http.Request} (recased : List.Forall₂ Http.Request.Recased requests requests')
    (engine : Engine) (maxBody : Number) (start : Backing) (moments : List Moment) :
    CaseBlind start (served ⟨engine, .ofList entries, maxBody⟩ start requests moments)
      (served ⟨engine, .ofList entries', maxBody⟩ start requests' moments) moments := by
  rw [← Http.Allowlist.ofList_recased listed]
  generalize (⟨engine, .ofList entries, maxBody⟩ : App) = app
  have matched : List.Forall₂ (Matches (fun _ => Eq) Eq) (requests.map app.respond)
      (requests'.map app.respond) := by
    refine List.forall₂_map_left_iff.mpr (List.forall₂_map_right_iff.mpr ?_)
    exact recased.imp fun request request' recased => recased.respond app
  have inStep : (served app start requests moments).InStep (served app start requests' moments) :=
    Traffic.InStep.run matched moments
  constructor
  case store => exact inStep.store
  case answers => exact inStep.done_iff
  case lower =>
    intro new drawn id stored
    let kept : Part → Prop := fun
      | .id id => Uuid.read? id = some id
      | .content _ => True
    have own : ∀ request ∈ requests, ∀ command, app.asks request = some command →
        ∀ p ∈ command.parts, kept p := by
      intro request _ command asked p hp
      cases p with
      | id id => exact lower_of_asks asked hp
      | content bytes => trivial
    have before : ∀ p ∈ start.parts, kept p := by
      rw [new.parts]
      exact List.forall_mem_nil _
    exact parts_served before (by decide +kernel) own drawn _ stored

/-- Adds a first version, and asks what follows it. -/
def asksInCapitals : List Http.Request :=
  [{ method := "POST"
     target := "/v1/client/add-version/00000000-0000-0000-0000-000000000000"
     headers := ⟨[("x-client-id", "AAAAAAAA-AAAA-4AAA-8AAA-AAAAAAAAAAAA")]⟩
     body := .whole [1] },
   { method := "GET"
     target := "/v1/client/get-child-version/BBBBBBBB-BBBB-4BBB-8BBB-BBBBBBBBBBBB"
     headers := ⟨[("x-client-id", "aaaaaaaa-aaaa-4aaa-8aaa-aaaaaaaaaaaa")]⟩ }]

def asksInMixedCase : List Http.Request :=
  [{ method := "POST"
     target := "/v1/client/add-version/00000000-0000-0000-0000-000000000000"
     headers := ⟨[("x-client-id", "aaaaaaaa-aaaa-4AAA-8AAA-aaaaaaaaaaaa")]⟩
     body := .whole [1] },
   { method := "GET"
     target := "/v1/client/get-child-version/bbbbBBBB-bbbb-4bbb-8bbb-bbbbbbbbbbbb"
     headers := ⟨[("x-client-id", "Aaaaaaaa-aaaa-4aaa-8aaa-aaaaaaaaaaaa")]⟩ }]

def askMoments : List Moment :=
  (List.replicate 12 [⟨⟨0, 1, "bbbbbbbb-bbbb-4bbb-8bbb-bbbbbbbbbbbb"⟩, none⟩,
    ⟨⟨1, 1, "cccccccc-cccc-4ccc-8ccc-cccccccccccc"⟩, none⟩]).flatten

theorem ids_case_blind_capitals :
    ["AAAAAAAA-AAAA-4AAA-8AAA-AAAAAAAAAAAA"].map Http.asciiLower =
        ["aaaaaaaa-AAAA-4aaa-8aaa-AAAAAAAAAAAA"].map Http.asciiLower ∧
      List.Forall₂ Http.Request.Recased asksInCapitals asksInMixedCase ∧
      CaseBlind (.memory .empty)
        (served ⟨{}, .ofList ["AAAAAAAA-AAAA-4AAA-8AAA-AAAAAAAAAAAA"], 100⟩ (.memory .empty)
          asksInCapitals askMoments)
        (served ⟨{}, .ofList ["aaaaaaaa-AAAA-4aaa-8aaa-AAAAAAAAAAAA"], 100⟩ (.memory .empty)
          asksInMixedCase askMoments) askMoments ∧
      .id "bbbbbbbb-bbbb-4bbb-8bbb-bbbbbbbbbbbb" ∈ (served
        ⟨{}, .ofList ["AAAAAAAA-AAAA-4AAA-8AAA-AAAAAAAAAAAA"], 100⟩ (.memory .empty)
          asksInCapitals askMoments).store.parts := by
  have listed : ["AAAAAAAA-AAAA-4AAA-8AAA-AAAAAAAAAAAA"].map Http.asciiLower =
      ["aaaaaaaa-AAAA-4aaa-8aaa-AAAAAAAAAAAA"].map Http.asciiLower := by decide +kernel
  have target : Http.Target.Recased
      "/v1/client/get-child-version/BBBBBBBB-BBBB-4BBB-8BBB-BBBBBBBBBBBB"
      "/v1/client/get-child-version/bbbbBBBB-bbbb-4bbb-8bbb-bbbbbbbbbbbb" := by
    have inPath : ∀ c ∈ "/v1/client/get-child-version".toList,
        Http.Target.startsQuery c = false := by
      simp only [← Bool.not_eq_true, ← List.any_eq_false]
      decide +kernel
    have single : ∀ c ∈ "BBBBBBBB-BBBB-4BBB-8BBB-BBBBBBBBBBBB".toList,
        Http.Target.isSlash c = false := by
      simp only [← Bool.not_eq_true, ← List.any_eq_false]
      decide +kernel
    have parts := @Http.Target.Recased.version "get-child-version"
      "/v1/client/get-child-version".toList "BBBBBBBB-BBBB-4BBB-8BBB-BBBBBBBBBBBB".toList
      "bbbbBBBB-bbbb-4bbb-8bbb-bbbbbbbbbbbb".toList [] '/' (by decide) (by decide +kernel)
      (by decide) inPath single nofun (by decide +kernel)
    have whole : String.ofList ("/v1/client/get-child-version".toList ++
        '/' :: ("BBBBBBBB-BBBB-4BBB-8BBB-BBBBBBBBBBBB".toList ++ [])) =
          "/v1/client/get-child-version/BBBBBBBB-BBBB-4BBB-8BBB-BBBBBBBBBBBB" := by decide +kernel
    have whole' : String.ofList ("/v1/client/get-child-version".toList ++
        '/' :: ("bbbbBBBB-bbbb-4bbb-8bbb-bbbbbbbbbbbb".toList ++ [])) =
          "/v1/client/get-child-version/bbbbBBBB-bbbb-4bbb-8bbb-bbbbbbbbbbbb" := by decide +kernel
    rwa [whole, whole'] at parts
  have recased : List.Forall₂ Http.Request.Recased asksInCapitals asksInMixedCase := by
    have others {client client' : String} : ∀ name, name ≠ "x-client-id" →
        (⟨[("x-client-id", client)]⟩ : Http.Headers).get? name =
          (⟨[("x-client-id", client')]⟩ : Http.Headers).get? name := by
      intro name other
      have skipped : ("x-client-id" = name) = False := eq_false (Ne.symm other)
      simp [Http.Headers.get?, skipped]
    exact .cons ⟨rfl, .same _, by decide +kernel, others, rfl⟩
      (.cons ⟨rfl, target, by decide +kernel, others, rfl⟩ .nil)
  exact ⟨listed, recased, ids_case_blind listed recased {} 100 (.memory .empty) askMoments,
    by decide +kernel⟩

end Scenario

end TaskSync
