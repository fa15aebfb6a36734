import TaskSync.Store.Pooled

/-!
# Exchanges with the server

What a call asks of the pool and of its connection, whatever these answer. A
connection that was taken is given back once, after the last statement. A
transaction ends with a commit that succeeded, or is rolled back once.
-/

namespace TaskSync

/-- How a failure met while doing `context` is reported. -/
inductive Failure.Reported (context : String) : Failure → Failure → Prop where
  | own {failure : Failure} (own : failure.isOwn) : Reported context failure failure
  | foreign (name message : String) :
      Reported context (.foreign name message) (.storage context (.error message))
  | raised (raw : Raw) : Reported context (.raised raw) (.storage context (.value raw))

theorem Failure.reported_wrap (context : String) (failure : Failure) :
    Reported context failure (failure.wrap context) := by
  cases failure with
  | foreign name message => exact .foreign name message
  | raised raw => exact .raised raw
  | noSuchClient | clientAlreadyExists | storage | config | general => exact .own rfl

namespace Store

/-! ## Courses -/

/-- A request with its answer. -/
structure Asked where
  request : Request
  answer : request.Answer

/-- How the pool and the connection behave: what a request is answered after others. -/
abbrev Server := List Asked → (request : Request) → request.Answer

section

variable {α β : Type}

/-- What a talk asks of a server after other requests, and its result. -/
def converse (server : Server) : List Asked → Talk α → List Asked × α
  | _, .done value => ([], value)
  | before, .ask request next =>
    let asked : Asked := ⟨request, server before request⟩
    let (rest, value) := converse server (before ++ [asked]) (next asked.answer)
    (asked :: rest, value)

/-- What a talk can ask, with its result for the answers given. -/
inductive Course : Talk α → List Asked → α → Prop where
  | done (value : α) : Course (.done value) [] value
  | ask {request : Request} {next : request.Answer → Talk α} (answer : request.Answer)
      {asked : List Asked} {value : α} (rest : Course (next answer) asked value) :
      Course (.ask request next) (⟨request, answer⟩ :: asked) value

theorem converse_course (server : Server) (before : List Asked) (talk : Talk α) :
    Course talk (converse server before talk).1 (converse server before talk).2 := by
  induction talk generalizing before with
  | done value => exact .done value
  | ask request next ih => exact .ask _ (ih ..)

namespace Course

theorem of_bind {talk : Talk α} {f : α → Talk β} {asked : List Asked} {value : β}
    (course : Course (talk >>= f) asked value) :
    ∃ first middle rest, asked = first ++ rest ∧ Course talk first middle ∧
      Course (f middle) rest value := by
  induction talk generalizing asked with
  | done middle => exact ⟨[], middle, asked, rfl, .done middle, course⟩
  | ask request next ih =>
    cases course with
    | ask answer rest =>
      obtain ⟨first, middle, last, rfl, hfirst, hlast⟩ := ih answer rest
      exact ⟨⟨request, answer⟩ :: first, middle, last, rfl, .ask answer hfirst, hlast⟩

theorem of_ask {request : Request} {asked : List Asked} {answer : request.Answer}
    (course : Course (Pooled.ask request) asked answer) : asked = [⟨request, answer⟩] := by
  cases course with
  | ask answer rest =>
    cases rest
    rfl

theorem of_andThen {x : Exchange α} {f : α → Exchange β} {asked : List Asked}
    {result : Except Failure β} (course : Course (x >>= f).run asked result) :
    (∃ failure, result = .error failure ∧ Course x.run asked (.error failure)) ∨
      ∃ first value rest, asked = first ++ rest ∧ Course x.run first (.ok value) ∧
        Course (f value).run rest result := by
  obtain ⟨first, middle, rest, rfl, hfirst, hrest⟩ := of_bind course
  cases middle with
  | ok value => exact .inr ⟨first, value, rest, rfl, hfirst, hrest⟩
  | error failure =>
    cases hrest
    rw [List.append_nil]
    exact .inl ⟨failure, rfl, hfirst⟩

end Course

end

/-! ## Statements sent -/

/-- A statement with its answer. -/
structure Sent where
  statement : Statement
  answer : Except Failure (List statement.Row)

namespace Sent

def asked (s : Sent) : Asked := ⟨.run s.statement, s.answer⟩

def Succeeds (s : Sent) : Prop := ∃ rows, s.answer = .ok rows

end Sent

/-- The failure for a statement that returns no row where there must be one. -/
def Statement.missing : Statement → Option Failure
  | insertClient client => some (.clientAlreadyExists client)
  | lockClient client | advanceHead _ client | storeSnapshot _ _ _ client =>
    some (.noSuchClient client)
  | _ => none

/-- The statements sent came to a failure with the last one: it failed, or it returned no row where
there must be one. -/
inductive FirstFailure : List Sent → Failure → Prop where
  | failed {before : List Sent} (succeeded : ∀ s ∈ before, s.Succeeds) (statement : Statement)
      (failure : Failure) : FirstFailure (before ++ [⟨statement, .error failure⟩]) failure
  | noRow {before : List Sent} (succeeded : ∀ s ∈ before, s.Succeeds) {statement : Statement}
      {failure : Failure} (missing : statement.missing = some failure) :
      FirstFailure (before ++ [⟨statement, .ok []⟩]) failure

theorem FirstFailure.after {failure : Failure} {before sent : List Sent}
    (first : FirstFailure sent failure) (succeeded : ∀ s ∈ before, s.Succeeds) :
    FirstFailure (before ++ sent) failure := by
  cases first with
  | failed h statement failure =>
    rw [← List.append_assoc]
    exact .failed (List.forall_mem_append.mpr ⟨succeeded, h⟩) statement failure
  | noRow h missing =>
    rw [← List.append_assoc]
    exact .noRow (List.forall_mem_append.mpr ⟨succeeded, h⟩) missing

def Statement.delimits : Statement → Bool
  | begin | commit | rollback => true
  | _ => false

section

variable {α β : Type}

/-- The statements sent neither begin nor end a transaction. With a result all of them succeeded, and
otherwise the last one is what failed. -/
structure Works (sent : List Sent) (result : Except Failure α) : Prop where
  inside : ∀ s ∈ sent, s.statement.delimits = false
  ok : ∀ value, result = .ok value → ∀ s ∈ sent, s.Succeeds
  error : ∀ failure, result = .error failure → FirstFailure sent failure

theorem Works.cons {sent : List Sent} {result : Except Failure α} (works : Works sent result)
    {statement : Statement} (inside : statement.delimits = false) (rows : List statement.Row) :
    Works (⟨statement, .ok rows⟩ :: sent) result where
  inside := List.forall_mem_cons.mpr ⟨inside, works.inside⟩
  ok value hvalue := List.forall_mem_cons.mpr ⟨⟨rows, rfl⟩, works.ok value hvalue⟩
  error failure hfailure :=
    (works.error failure hfailure).after (List.forall_mem_singleton.mpr ⟨rows, rfl⟩)

theorem Works.failed {statement : Statement} (inside : statement.delimits = false)
    (failure : Failure) :
    Works [⟨statement, .error failure⟩] (.error failure : Except Failure α) where
  inside := List.forall_mem_singleton.mpr inside
  ok := nofun
  error := by
    rintro _ ⟨⟩
    exact .failed (List.forall_mem_nil _) statement failure

theorem Works.missed {statement : Statement} (inside : statement.delimits = false)
    {failure : Failure} (missing : statement.missing = some failure) :
    Works [⟨statement, .ok []⟩] (.error failure : Except Failure α) where
  inside := List.forall_mem_singleton.mpr inside
  ok := nofun
  error := by
    rintro _ ⟨⟩
    exact .noRow (List.forall_mem_nil _) missing

end

/-! ## What an exchange sends -/

section

variable {α β : Type}

/-- However the exchange goes, what it sends and its result are as in `spec`. -/
def Exchange.Obeys (spec : List Sent → Except Failure α → Prop) (x : Exchange α) : Prop :=
  ∀ asked result, Course x.run asked result →
    ∃ sent, asked = sent.map Sent.asked ∧ spec sent result

namespace Exchange.Obeys

variable {spec : List Sent → Except Failure β → Prop}

theorem mono {spec' : List Sent → Except Failure β → Prop} {x : Exchange β} (hx : Obeys spec x)
    (weaker : ∀ sent result, spec sent result → spec' sent result) : Obeys spec' x := by
  intro asked result course
  obtain ⟨sent, rfl, meets⟩ := hx asked result course
  exact ⟨sent, rfl, weaker sent result meets⟩

theorem pure {value : β} (meets : spec [] (.ok value)) : Obeys spec (pure value) := by
  rintro asked result ⟨⟩
  exact ⟨[], rfl, meets⟩

theorem throws {failure : Failure} (meets : spec [] (.error failure)) :
    Obeys spec (throw failure) := by
  rintro asked result ⟨⟩
  exact ⟨[], rfl, meets⟩

/-- What comes second is held to what is left for it by what came first. -/
theorem andThen {first : List Sent → Except Failure α → Prop} {x : Exchange α}
    {f : α → Exchange β} (hx : Obeys first x)
    (failed : ∀ sent failure, first sent (.error failure) → spec sent (.error failure))
    (ok : ∀ sent value, first sent (.ok value) → Obeys (fun rest => spec (sent ++ rest)) (f value)) :
    Obeys spec (x >>= f) := by
  intro asked result course
  rcases course.of_andThen with ⟨failure, rfl, hfirst⟩ | ⟨_, value, rest, rfl, hfirst, hrest⟩
  · obtain ⟨sent, rfl, meets⟩ := hx _ _ hfirst
    exact ⟨sent, rfl, failed sent failure meets⟩
  · obtain ⟨sent, rfl, meets⟩ := hx _ _ hfirst
    obtain ⟨sent', rfl, meets'⟩ := ok sent value meets _ _ hrest
    exact ⟨sent ++ sent', List.map_append.symm, meets'⟩

theorem statement (statement : Statement) :
    Obeys (fun sent answer => sent = [⟨statement, answer⟩]) (Pooled.run statement) := by
  intro asked answer course
  obtain rfl := Course.of_ask course
  exact ⟨[⟨statement, answer⟩], rfl, rfl⟩

theorem run {statement : Statement} {f : List statement.Row → Exchange β}
    (failed : ∀ failure, spec [⟨statement, .error failure⟩] (.error failure))
    (ok : ∀ rows, Obeys (fun sent => spec (⟨statement, .ok rows⟩ :: sent)) (f rows)) :
    Obeys spec (Pooled.run statement >>= f) := by
  refine .andThen (.statement statement) ?_ ?_
  · rintro _ failure rfl
    exact failed failure
  · rintro _ rows rfl
    exact ok rows

theorem runRow {statement : Statement} {f : List statement.Row → Exchange β} {failure : Failure}
    (noRow : f [] = throw failure)
    (failed : ∀ failure, spec [⟨statement, .error failure⟩] (.error failure))
    (missed : spec [⟨statement, .ok []⟩] (.error failure))
    (row : ∀ row rows,
      Obeys (fun sent => spec (⟨statement, .ok (row :: rows)⟩ :: sent)) (f (row :: rows))) :
    Obeys spec (Pooled.run statement >>= f) := by
  refine .run failed fun rows => ?_
  cases rows with
  | nil =>
    rw [noRow]
    exact .throws missed
  | cons first rows => exact row first rows

end Exchange.Obeys

/-- However it goes, the exchange sends nothing but its statements. -/
def Exchange.Sends (x : Exchange α) : Prop := x.Obeys Works

namespace Exchange.Sends

theorem pure (value : α) : Sends (pure value) :=
  Obeys.pure ⟨List.forall_mem_nil _, fun _ _ => List.forall_mem_nil _, nofun⟩

theorem run {statement : Statement} {f : List statement.Row → Exchange β}
    (inside : statement.delimits = false) (ok : ∀ rows, Sends (f rows)) :
    Sends (Pooled.run statement >>= f) :=
  Obeys.run (.failed inside) fun rows => (ok rows).mono fun _ _ works => works.cons inside rows

theorem runRow {statement : Statement} {f : List statement.Row → Exchange β} {failure : Failure}
    (inside : statement.delimits = false) (missing : statement.missing = some failure)
    (noRow : f [] = throw failure) (row : ∀ row rows, Sends (f (row :: rows))) :
    Sends (Pooled.run statement >>= f) :=
  Obeys.runRow noRow (.failed inside) (.missed inside missing) fun first rows =>
    (row first rows).mono fun _ _ works => works.cons inside (first :: rows)

end Exchange.Sends

/-! ## Transactions -/

namespace Pooled

/-- What a connection is given back with, by what the rollback was answered. -/
def leftover : Except Failure (List Unit) → Option Failure
  | .ok _ => none
  | .error failure => some (asError failure)

end Pooled

open Pooled (leftover)

/-- How a transaction ends after its work: the statements sent for it, what the connection is given
back with, and what is reported. -/
inductive Closes (context : String) :
    Except Failure α → List Sent → Option Failure → Except Failure α → Prop where
  | rolledBack (failure : Failure) (answer : Except Failure (List Unit)) :
      Closes context (.error failure) [⟨.rollback, answer⟩] (leftover answer)
        (.error (failure.wrap context))
  | notCommitted (value : α) (failure : Failure) (answer : Except Failure (List Unit)) :
      Closes context (.ok value) [⟨.commit, .error failure⟩, ⟨.rollback, answer⟩] (leftover answer)
        (.error (failure.wrap context))
  | committed (value : α) (rows : List Unit) :
      Closes context (.ok value) [⟨.commit, .ok rows⟩] none (.ok value)

/-- A transaction around work that is as in `spec`. -/
inductive Framed (context : String) (spec : List Sent → Except Failure α → Prop) :
    List Sent → Option Failure → Except Failure α → Prop where
  | notBegun (failure : Failure) (answer : Except Failure (List Unit)) :
      Framed context spec [⟨.begin, .error failure⟩, ⟨.rollback, answer⟩] (leftover answer)
        (.error (failure.wrap context))
  | begun (rows : List Unit) {sent closing : List Sent} {done result : Except Failure α}
      {released : Option Failure} (work : spec sent done)
      (closes : Closes context done closing released result) :
      Framed context spec (⟨.begin, .ok rows⟩ :: (sent ++ closing)) released result

/-- A transaction on a connection: the statements sent, the failure that the connection is given
back with, if any, and the result. -/
structure Transacted (context : String) (sent : List Sent)
    (released : Option Failure) (result : Except Failure α) : Prop where
  begins : ∃ answer rest, sent = ⟨.begin, answer⟩ :: rest
  /-- There is a result exactly if a commit was sent and succeeded. -/
  returns : (∃ value, result = .ok value) ↔ ∃ rows, ⟨.commit, .ok rows⟩ ∈ sent
  /-- Then it is the last statement, and nothing was rolled back. -/
  committed : ∀ value, result = .ok value →
    (∃ before rows, sent = before ++ [⟨.commit, .ok rows⟩]) ∧
      (∀ s ∈ sent, s.statement ≠ .rollback) ∧ released = none
  /-- Otherwise the last statement is the only one that rolls back. Reported is what failed before,
  and the connection is given back with what then fails. -/
  rolledBack : ∀ error, result = .error error → ∃ before answer failure,
    sent = before ++ [⟨.rollback, answer⟩] ∧ (∀ s ∈ before, s.statement ≠ .rollback) ∧
      FirstFailure before failure ∧ failure.Reported context error ∧
      (∀ rows, answer = .ok rows → released = none) ∧
      ∀ failure, answer = .error failure → released = some (Pooled.asError failure)

/-- Work outside transactions: the statements sent, and the result. -/
structure Worked (context : String) (sent : List Sent)
    (result : Except Failure α) : Prop where
  inside : ∀ s ∈ sent, s.statement.delimits = false
  ok : ∀ value, result = .ok value → ∀ s ∈ sent, s.Succeeds
  error : ∀ error, result = .error error →
    ∃ failure, FirstFailure sent failure ∧ failure.Reported context error

/-- An exchange takes a connection, and gives it back once after the last statement. Without a
connection nothing else is asked. -/
inductive Disciplined (spec : List Sent → Option Failure → Except Failure α → Prop) :
    List Asked → Except Failure α → Prop where
  | unconnected (failure : Failure) {error : Failure}
      (reported : failure.Reported "error connecting to database" error) :
      Disciplined spec [⟨.connect, .error failure⟩] (.error error)
  | connected {sent : List Sent} {released : Option Failure} {result : Except Failure α}
      (meets : spec sent released result) :
      Disciplined spec
        (⟨.connect, .ok ()⟩ :: (sent.map Sent.asked ++ [⟨.release released, ()⟩])) result

theorem Disciplined.mono {spec spec' : List Sent → Option Failure → Except Failure α → Prop}
    {asked : List Asked} {result : Except Failure α} (disciplined : Disciplined spec asked result)
    (weaker : ∀ sent released, spec sent released result → spec' sent released result) :
    Disciplined spec' asked result := by
  cases disciplined with
  | unconnected failure reported => exact .unconnected failure reported
  | connected meets => exact .connected (weaker _ _ meets)

theorem Course.of_connected {work : Talk (Except Failure α)} {asked : List Asked}
    {result : Except Failure α} (course : Course (Pooled.connected work).run asked result) :
    (∃ failure, asked = [⟨.connect, .error failure⟩] ∧
      result = .error (failure.wrap "error connecting to database")) ∨
      ∃ rest, asked = ⟨.connect, .ok ()⟩ :: rest ∧ Course work rest result := by
  cases course with
  | ask answer rest =>
    cases answer with
    | error failure =>
      cases rest
      exact .inl ⟨failure, rfl, rfl⟩
    | ok value => exact .inr ⟨_, rfl, rest⟩

theorem Disciplined.of_connected {spec : List Sent → Option Failure → Except Failure α → Prop}
    {work : Talk (Except Failure α)} {asked : List Asked} {result : Except Failure α}
    (meets : ∀ asked, Course work asked result → ∃ sent released,
      asked = sent.map Sent.asked ++ [⟨.release released, ()⟩] ∧ spec sent released result)
    (course : Course (Pooled.connected work).run asked result) : Disciplined spec asked result := by
  rcases course.of_connected with ⟨failure, rfl, rfl⟩ | ⟨rest, rfl, hwork⟩
  · exact .unconnected failure (failure.reported_wrap _)
  · obtain ⟨sent, released, rfl, meets⟩ := meets _ hwork
    exact .connected meets

theorem Course.of_rollback {asked : List Asked} {released : Option Failure}
    (course : Course Pooled.rollback asked released) :
    ∃ answer, asked = [(⟨.rollback, answer⟩ : Sent)].map Sent.asked ∧ released = leftover answer := by
  obtain ⟨first, answer, rest, rfl, hask, hrest⟩ := Course.of_bind course
  obtain rfl := hask.of_ask
  cases answer with
  | ok rows =>
    cases hrest
    exact ⟨.ok rows, rfl, rfl⟩
  | error failure =>
    cases hrest
    exact ⟨.error failure, rfl, rfl⟩

/-- What is required of a transaction up to its rollback, if it comes to one. -/
def BeforeRollback (context : String)
    (spec : List Sent → Option Failure → Except Failure α → Prop) (sent : List Sent) :
    Except Failure α → Prop
  | .ok value => spec sent none (.ok value)
  | .error failure => ∀ answer,
    spec (sent ++ [⟨.rollback, answer⟩]) (leftover answer) (.error (failure.wrap context))

namespace Exchange.Obeys

variable {spec : List Sent → Except Failure α → Prop} {work : Exchange α}

theorem committed (obeys : work.Obeys spec) (context : String) :
    (Pooled.committed work).Obeys (BeforeRollback context (Framed context spec)) := by
  refine .run (fun failure answer => .notBegun failure answer) fun begun => ?_
  refine .andThen obeys ?_ fun sent value meets => .run ?_ fun rows => .pure ?_
  · exact fun sent failure meets answer => .begun begun meets (.rolledBack failure answer)
  · intro failure answer
    rw [List.cons_append, List.append_assoc]
    exact .begun begun meets (.notCommitted value failure answer)
  · exact .begun begun meets (.committed value rows)

theorem transaction (obeys : work.Obeys spec) (context : String) {asked : List Asked}
    {result : Except Failure α}
    (course : Course (Pooled.transaction context work).run asked result) :
    Disciplined (Framed context spec) asked result := by
  refine .of_connected (fun asked course => ?_) course
  obtain ⟨_, done, _, rfl, hwork, hrest⟩ := Course.of_bind course
  obtain ⟨sent, rfl, meets⟩ := obeys.committed context _ _ hwork
  cases done with
  | ok value =>
    obtain ⟨_, _, _, rfl, hrelease, ⟨⟩⟩ := Course.of_bind hrest
    obtain rfl := hrelease.of_ask
    exact ⟨sent, none, rfl, meets⟩
  | error failure =>
    obtain ⟨_, released, _, rfl, hrollback, hrest⟩ := Course.of_bind hrest
    obtain ⟨_, _, _, rfl, hrelease, ⟨⟩⟩ := Course.of_bind hrest
    obtain rfl := hrelease.of_ask
    obtain ⟨answer, rfl, rfl⟩ := hrollback.of_rollback
    exact ⟨sent ++ [⟨.rollback, answer⟩], leftover answer, by simp, meets answer⟩

theorem withConnection (obeys : work.Obeys spec) (context : String) {asked : List Asked}
    {result : Except Failure α}
    (course : Course (Pooled.withConnection context work).run asked result) :
    Disciplined (fun sent released result => released = none ∧
      ∃ done, spec sent done ∧ result = done.mapError (Failure.wrap context)) asked result := by
  refine .of_connected (fun asked course => ?_) course
  obtain ⟨_, done, _, rfl, hwork, hrest⟩ := Course.of_bind course
  obtain ⟨_, _, _, rfl, hrelease, ⟨⟩⟩ := Course.of_bind hrest
  obtain rfl := hrelease.of_ask
  obtain ⟨sent, rfl, meets⟩ := obeys _ _ hwork
  exact ⟨sent, none, rfl, rfl, done, meets, rfl⟩

end Exchange.Obeys

/-! ## Nothing but statements -/

theorem Works.mem_delimits {first s : Sent} {sent last : List Sent} {result : Except Failure α}
    (works : Works sent result) (delimits : s.statement.delimits = true)
    (hs : s ∈ first :: (sent ++ last)) : s = first ∨ s ∈ last := by
  rcases List.mem_cons.mp hs with rfl | hs
  · exact .inl rfl
  rcases List.mem_append.mp hs with hs | hs
  · rw [works.inside s hs] at delimits
    cases delimits
  · exact .inr hs

theorem Works.no_rollback {sent last : List Sent} {result : Except Failure α}
    (works : Works sent result) (rows : List Unit)
    (others : ∀ s ∈ last, s.statement ≠ .rollback) :
    ∀ s ∈ ⟨.begin, .ok rows⟩ :: (sent ++ last), s.statement ≠ .rollback := by
  intro s hs rollback
  rcases works.mem_delimits (by rw [rollback]; rfl) hs with rfl | hs
  · cases rollback
  · exact others s hs rollback

namespace Framed

variable {context : String} {sent : List Sent} {released : Option Failure}
  {result : Except Failure α}

theorem begins (framed : Framed context Works sent released result) :
    ∃ answer rest, sent = ⟨.begin, answer⟩ :: rest := by
  cases framed <;> exact ⟨_, _, rfl⟩

theorem returns_iff (framed : Framed context Works sent released result) :
    (∃ value, result = .ok value) ↔ ∃ rows, ⟨.commit, .ok rows⟩ ∈ sent := by
  cases framed with
  | notBegun failure answer => simp
  | begun begun works closes =>
    cases closes with
    | rolledBack | notCommitted =>
      refine ⟨nofun, fun ⟨rows, hs⟩ => ?_⟩
      rcases works.mem_delimits rfl hs with h | h
      · cases h
      · simp at h
    | committed value rows => exact ⟨fun _ => ⟨rows, by simp⟩, fun _ => ⟨value, rfl⟩⟩

theorem committed {value : α} (framed : Framed context Works sent released (.ok value)) :
    (∃ before rows, sent = before ++ [⟨.commit, .ok rows⟩]) ∧
      (∀ s ∈ sent, s.statement ≠ .rollback) ∧ released = none := by
  cases framed with
  | @begun begun work _ _ _ _ works closes =>
    cases closes with
    | committed value rows =>
      refine ⟨⟨⟨.begin, .ok begun⟩ :: work, rows, rfl⟩, works.no_rollback begun ?_, rfl⟩
      exact List.forall_mem_singleton.mpr nofun

theorem rolledBack {error : Failure}
    (framed : Framed context Works sent released (.error error : Except Failure α)) :
    ∃ before answer failure, sent = before ++ [⟨.rollback, answer⟩] ∧
      (∀ s ∈ before, s.statement ≠ .rollback) ∧ FirstFailure before failure ∧
        failure.Reported context error ∧ released = leftover answer := by
  cases framed with
  | notBegun failure answer =>
    exact ⟨[⟨.begin, .error failure⟩], answer, failure, rfl, List.forall_mem_singleton.mpr nofun,
      .failed (List.forall_mem_nil _) .begin failure, failure.reported_wrap context, rfl⟩
  | @begun begun work _ _ _ _ works closes =>
    have first : (⟨.begin, .ok begun⟩ : Sent).Succeeds := ⟨begun, rfl⟩
    cases closes with
    | rolledBack failure answer =>
      have others := works.no_rollback begun (List.forall_mem_nil _)
      rw [List.append_nil] at others
      exact ⟨_, answer, failure, rfl, others,
        (works.error failure rfl).after (List.forall_mem_singleton.mpr first),
        failure.reported_wrap context, rfl⟩
    | notCommitted value failure answer =>
      have succeeded := List.forall_mem_cons.mpr ⟨first, works.ok value rfl⟩
      exact ⟨⟨.begin, .ok begun⟩ :: (work ++ [⟨.commit, .error failure⟩]), answer, failure, by simp,
        works.no_rollback begun (List.forall_mem_singleton.mpr nofun),
        .failed succeeded .commit failure, failure.reported_wrap context, rfl⟩

theorem transacted (framed : Framed context Works sent released result) :
    Transacted context sent released result where
  begins := framed.begins
  returns := framed.returns_iff
  committed := by
    rintro value rfl
    exact framed.committed
  rolledBack := by
    rintro error rfl
    obtain ⟨before, answer, failure, split, others, first, reported, rfl⟩ := framed.rolledBack
    refine ⟨before, answer, failure, split, others, first, reported, ?_, ?_⟩
    · rintro rows rfl
      rfl
    · rintro failure rfl
      rfl

end Framed

theorem Exchange.Sends.transaction {work : Exchange α} (sends : Sends work)
    (context : String) {asked : List Asked} {result : Except Failure α}
    (course : Course (Pooled.transaction context work).run asked result) :
    Disciplined (Transacted context) asked result :=
  (Obeys.transaction sends context course).mono fun _ _ framed => framed.transacted

theorem Exchange.Sends.withConnection {work : Exchange α} (sends : Sends work)
    (context : String) {asked : List Asked} {result : Except Failure α}
    (course : Course (Pooled.withConnection context work).run asked result) :
    Disciplined (fun sent released result => Worked context sent result ∧ released = none)
      asked result := by
  refine (Obeys.withConnection sends context course).mono ?_
  rintro sent _ ⟨rfl, done, works, rfl⟩
  refine ⟨⟨works.inside, ?_, ?_⟩, rfl⟩
  · intro value hvalue
    cases done with
    | ok value' => exact works.ok value' rfl
    | error failure => cases hvalue
  · intro error herror
    cases done with
    | ok value => cases herror
    | error failure =>
      cases herror
      exact ⟨failure, works.error failure rfl, failure.reported_wrap context⟩

end

/-! ## Every call -/

def Call.transacts : Call → Bool
  | .addVersion .. | .addSnapshot .. => true
  | _ => false

namespace Pooled

/-- The name of what a call does, under which failures are reported. -/
def context : Call → String
  | .getClient _ => "error getting client"
  | .createClient _ => "error creating client"
  | .getVersionByParent .. => "error getting version"
  | .addVersion .. => "error adding version"
  | .addSnapshot .. => "error setting snapshot"
  | .getSnapshot _ => "error getting snapshot data"

/-- What a call does on a connection. -/
def Meets (c : Call) (sent : List Sent) (released : Option Failure)
    (result : Except Failure c.Reply) : Prop :=
  if c.transacts then Transacted (context c) sent released result
  else Worked (context c) sent result ∧ released = none

variable (now : Number) {asked : List Asked}

theorem disciplined_addVersion (client parent version : String) (segment : Bytes)
    {result : Except Failure Appended}
    (course : Course (addVersion client parent version segment).run asked result) :
    Disciplined (Meets (.addVersion client parent version segment)) asked result := by
  refine Exchange.Sends.transaction ?_ _ course
  refine .runRow rfl rfl rfl fun locked _ => ?_
  change Exchange.Sends (if locked.head = parent then _ else _)
  split
  · exact .run rfl fun _ => .runRow rfl rfl rfl fun updated _ => .pure _
  · exact .pure _

theorem disciplined_addSnapshot (client version : String) (data : Bytes) (prune : Bool)
    {result : Except Failure Stored}
    (course : Course (addSnapshot now client version data prune).run asked result) :
    Disciplined (Meets (.addSnapshot client version data prune)) asked result := by
  refine Exchange.Sends.transaction ?_ _ course
  refine .runRow rfl rfl rfl fun locked _ => ?_
  change Exchange.Sends (if locked.head = version then _ else _)
  split
  · refine .runRow rfl rfl rfl fun updated _ => ?_
    cases prune with
    | false => exact .pure _
    | true =>
      change Exchange.Sends (run (.pruneVersions client version) >>= fun _ => pure _)
      exact .run rfl fun _ => .pure _
  · exact .pure _

theorem disciplined_createClient (client : String) {result : Except Failure Client}
    (course : Course (createClient client).run asked result) :
    Disciplined (Meets (.createClient client)) asked result := by
  refine Exchange.Sends.withConnection ?_ _ course
  exact .runRow rfl rfl rfl fun _ _ => .pure _

theorem disciplined_read {c : Call} (reads : c.transacts = false)
    {statement : Statement} (inside : statement.delimits = false)
    {value : List statement.Row → c.Reply} {result : Except Failure c.Reply}
    (course : Course (withConnection (context c)
      (run statement >>= fun rows => pure (value rows))).run asked result) :
    Disciplined (Meets c) asked result := by
  have disciplined := Exchange.Sends.withConnection
    (.run inside fun rows => .pure (value rows)) _ course
  unfold Meets
  simp only [reads, Bool.false_eq_true, if_false]
  exact disciplined

theorem call_disciplined (c : Call) {result : Except Failure c.Reply}
    (course : Course (call now c).run asked result) : Disciplined (Meets c) asked result := by
  cases c with
  | getClient client => exact disciplined_read rfl rfl course
  | getVersionByParent client parent => exact disciplined_read rfl rfl course
  | getSnapshot client => exact disciplined_read rfl rfl course
  | createClient client => exact disciplined_createClient client course
  | addVersion client parent version segment =>
    exact disciplined_addVersion client parent version segment course
  | addSnapshot client version data prune =>
    exact disciplined_addSnapshot now client version data prune course

/-- **Connection discipline.** However the pool and its connection behave, every call gives a
connection back exactly once, and a transaction is committed, or rolled back once and reported by
its first failure. -/
theorem connection_discipline (server : Server) (before : List Asked) (now : Number) (c : Call) :
    Disciplined (Meets c) (converse server before (call now c).run).1
      (converse server before (call now c).run).2 :=
  call_disciplined now c (converse_course server before _)

end Pooled

end Store

end TaskSync
