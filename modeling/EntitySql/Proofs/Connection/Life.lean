import EntitySql.Postgres.Connection
import EntitySql.Proofs.Execution.Scope

/-!
# Lives of connections

A session is opened, closed and worked in, in any order, and whatever its server answers. A
connection that was made here is closed, or it has a client together with the task that drives it.
Only a closed one is connected, and its task is awaited when the client is gone. A connection that
was supplied from outside stays as it is.

The server keeps a record of its contacts, which changes nothing else.

## Main definitions

* `Contact` : what a server sees of a connection.
* `IsLife` : the contacts of a made connection, with the connection that they leave.
* `Call`, `Server.runAll` : what is asked of a session.
* `Server.recorded` : a server that keeps its contacts.

## Main results

* `runAll_recorded_erase` : keeping the contacts changes nothing.
* `Lives.run` : one call to a made connection.
* `isLife_runAll` : the lives of both kinds of connections.
-/

namespace EntitySql.Postgres

variable {τ κ δ α : Type}

/-! ### Contacts -/

/-- What a server sees of a connection. -/
inductive Contact (κ δ : Type) where
  /-- A client is asked for; the answer has one if connecting succeeds. -/
  | connecting (address : String) (answer : Option (κ × δ))
  | working (client : κ)
  /-- A task is awaited, behind the client that it drives. -/
  | waiting (task : δ) (ended : Bool)

/-- A made connection with a client and its task. -/
def Connection.opened (address : String) (client : κ) (task : δ) : Connection κ δ :=
  ⟨address, some client, some task, false⟩

/-- The contacts of a made connection, with the connection that they leave. It has a client and a
task, or neither; it connects only without them, and both are gone when the task is awaited. -/
inductive IsLife (address : String) : List (Contact κ δ) → Connection κ δ → Prop
  | made : IsLife address [] (.made address)
  | refused {log} (h : IsLife address log (.made address)) :
      IsLife address (log ++ [.connecting address none]) (.made address)
  | connected {log} (h : IsLife address log (.made address)) (client : κ) (task : δ) :
      IsLife address (log ++ [.connecting address (some (client, task))])
        (.opened address client task)
  | worked {log client task} (h : IsLife address log (.opened address client task)) :
      IsLife address (log ++ [.working client]) (.opened address client task)
  | closed {log client task} (h : IsLife address log (.opened address client task)) (ended : Bool) :
      IsLife address (log ++ [.waiting task ended]) (.made address)

theorem IsLife.made_or_opened {address : String} {log : List (Contact κ δ)} {c : Connection κ δ}
    (h : IsLife address log c) :
    c = .made address ∨ ∃ client task, c = .opened address client task := by
  cases h with
  | made | refused | closed => exact .inl rfl
  | connected _ client task => exact .inr ⟨client, task, rfl⟩
  | @worked _ client task => exact .inr ⟨client, task, rfl⟩

/-! ### Calls -/

/-- The work of a client, as work in a session. -/
def working (work : κ → Action τ α) : Action (Session τ κ δ) α := fun s =>
  match s.connection.client with
  | none => ⟨.error notOpen, s, []⟩
  | some client =>
      let o := work client s.server
      ⟨o.result, { s with server := o.state }, o.events⟩

/-- What is asked of a session: it is opened, closed, or worked in. -/
inductive Call (τ κ : Type) : Type 1 where
  | openUp
  | close
  | inScope {α : Type} (work : κ → Action τ α)

/-- The session after a call. -/
def Call.run (server : Server τ κ δ) : Call τ κ → Session τ κ δ → Session τ κ δ
  | openUp, s => (server.openUp s).2
  | close, s => (server.close s).2
  | inScope work, s => (server.provider.inScope (working work) s).state

/-- The session after a sequence of calls. -/
def Server.runAll (server : Server τ κ δ) (calls : List (Call τ κ)) (s : Session τ κ δ) :
    Session τ κ δ :=
  calls.foldl (fun s call => call.run server s) s

/-! ### Steps of a session -/

section Steps

variable {server : Server τ κ δ} {s : Session τ κ δ} {t : τ}

theorem openUp_of_isOpen (h : s.connection.isOpen = true) : server.openUp s = (.ok (), s) :=
  if_pos h

theorem openUp_of_connect_some (h : s.connection.isOpen = false) {client : κ} {task : δ}
    (hconnect : server.connect s.connection.address s.server = (some (client, task), t)) :
    server.openUp s =
      (.ok (), ⟨{ s.connection with client := some client, task := some task }, t⟩) := by
  simp [Server.openUp, h, hconnect]

theorem openUp_of_connect_none (h : s.connection.isOpen = false)
    (hconnect : server.connect s.connection.address s.server = (none, t)) :
    server.openUp s = (.error (.connection openingText (some .driver)), ⟨s.connection, t⟩) := by
  simp [Server.openUp, h, hconnect]

theorem close_of_external (h : s.connection.external = true) : server.close s = (.ok (), s) :=
  if_pos h

theorem close_of_task_none (h : s.connection.external = false) (htask : s.connection.task = none) :
    server.close s =
      (.ok (), { s with connection := { s.connection with client := none, task := none } }) := by
  simp [Server.close, h, htask]

theorem close_of_task_some (h : s.connection.external = false) {task : δ}
    (htask : s.connection.task = some task) {ended : Bool}
    (hwait : server.wait task s.server = (ended, t)) :
    server.close s = (if ended then .ok () else .error (.connection closingText (some .driver)),
      ⟨{ s.connection with client := none, task := none }, t⟩) := by
  cases ended <;> simp [Server.close, h, htask, hwait]

end Steps

/-! ### Records -/

/-- The state of a server with its contacts. -/
abbrev Recorded (τ κ δ : Type) : Type :=
  τ × List (Contact κ δ)

namespace Recorded

/-- An answer of a server with one more contact, which may depend on it. -/
def add {β : Type} (r : Recorded τ κ δ) (contact : β → Contact κ δ) (answer : β × τ) :
    β × Recorded τ κ δ :=
  (answer.1, answer.2, r.2 ++ [contact answer.1])

/-- The work of a client, kept as a contact. -/
def work (work : κ → Action τ α) : κ → Action (Recorded τ κ δ) α := fun client r =>
  let o := work client r.1
  ⟨o.result, (o.state, r.2 ++ [.working client]), o.events⟩

end Recorded

/-- A server that does what another one does and keeps its contacts. -/
def Server.recorded (server : Server τ κ δ) : Server (Recorded τ κ δ) κ δ where
  connect address r := r.add (.connecting address) (server.connect address r.1)
  wait task r := r.add (.waiting task) (server.wait task r.1)
  prepare client sql r := r.add (fun _ => .working client) (server.prepare client sql r.1)
  run client params r := r.add (fun _ => .working client) (server.run client params r.1)
  begin client r := r.add (fun _ => .working client) (server.begin client r.1)

/-- A call whose work is kept as a contact. -/
def Call.recorded : Call τ κ → Call (Recorded τ κ δ) κ
  | openUp => openUp
  | close => close
  | inScope work => inScope (Recorded.work work)

/-- A session without the contacts. -/
def Session.erase (s : Session (Recorded τ κ δ) κ δ) : Session τ κ δ :=
  ⟨s.connection, s.server.1⟩

section Erase

variable {server : Server τ κ δ} {t t' : τ} (log : List (Contact κ δ))

theorem connect_recorded {address : String} {answer : Option (κ × δ)}
    (h : server.connect address t = (answer, t')) :
    server.recorded.connect address (t, log) =
      (answer, t', log ++ [.connecting address answer]) := by
  simp [Server.recorded, Recorded.add, h]

theorem wait_recorded {task : δ} {ended : Bool} (h : server.wait task t = (ended, t')) :
    server.recorded.wait task (t, log) = (ended, t', log ++ [.waiting task ended]) := by
  simp [Server.recorded, Recorded.add, h]

end Erase

variable (server : Server τ κ δ)

theorem openUp_erase (s : Session (Recorded τ κ δ) κ δ) :
    server.openUp s.erase = ((server.recorded.openUp s).1, (server.recorded.openUp s).2.erase) := by
  cases hopen : s.connection.isOpen with
  | true =>
      rw [openUp_of_isOpen hopen]
      exact openUp_of_isOpen (s := s.erase) hopen
  | false =>
      obtain ⟨answer, t', hconnect⟩ :
          ∃ answer t', server.connect s.connection.address s.server.1 = (answer, t') :=
        ⟨_, _, rfl⟩
      have hrecorded := connect_recorded s.server.2 hconnect
      cases answer with
      | none =>
          rw [openUp_of_connect_none hopen hrecorded]
          exact openUp_of_connect_none (s := s.erase) hopen hconnect
      | some pair =>
          rw [openUp_of_connect_some hopen hrecorded]
          exact openUp_of_connect_some (s := s.erase) hopen hconnect

theorem close_erase (s : Session (Recorded τ κ δ) κ δ) :
    server.close s.erase = ((server.recorded.close s).1, (server.recorded.close s).2.erase) := by
  cases hexternal : s.connection.external with
  | true =>
      rw [close_of_external hexternal]
      exact close_of_external (s := s.erase) hexternal
  | false =>
      cases htask : s.connection.task with
      | none =>
          rw [close_of_task_none hexternal htask]
          exact close_of_task_none (s := s.erase) hexternal htask
      | some task =>
          obtain ⟨ended, t', hwait⟩ : ∃ ended t', server.wait task s.server.1 = (ended, t') :=
            ⟨_, _, rfl⟩
          rw [close_of_task_some hexternal htask (wait_recorded s.server.2 hwait)]
          exact close_of_task_some (s := s.erase) hexternal htask hwait

/-- The provider over a server that keeps its contacts takes the same steps. -/
theorem isImage_recorded : server.recorded.provider.IsImage Session.erase server.provider :=
  ⟨fun _ => rfl, openUp_erase server, close_erase server, fun _ => rfl, fun _ => rfl⟩

theorem working_erase (work : κ → Action τ α) (s : Session (Recorded τ κ δ) κ δ) :
    working work s.erase = (working (Recorded.work work) s).map Session.erase := by
  obtain ⟨⟨address, client, task, external⟩, t, log⟩ := s
  cases client <;> rfl

theorem Call.run_erase (call : Call τ κ) (s : Session (Recorded τ κ δ) κ δ) :
    call.run server s.erase = (call.recorded.run server.recorded s).erase := by
  cases call with
  | openUp => exact congrArg Prod.snd (openUp_erase server s)
  | close => exact congrArg Prod.snd (close_erase server s)
  | inScope work =>
      exact congrArg Outcome.state ((isImage_recorded server).inScope (working_erase work) s)

/-- Keeping the contacts changes nothing. -/
theorem runAll_recorded_erase (calls : List (Call τ κ)) (s : Session (Recorded τ κ δ) κ δ) :
    (server.recorded.runAll (calls.map Call.recorded) s).erase = server.runAll calls s.erase := by
  induction calls generalizing s with
  | nil => rfl
  | cons call calls ih =>
      have hcall := ih (call.recorded.run server.recorded s)
      rw [← Call.run_erase] at hcall
      exact hcall

/-- What every call preserves holds after all calls. -/
theorem runAll_induction {Holds : Session (Recorded τ κ δ) κ δ → Prop}
    (hcall : ∀ (call : Call τ κ) (s : Session (Recorded τ κ δ) κ δ), Holds s →
      Holds (call.recorded.run server.recorded s))
    (calls : List (Call τ κ)) {s : Session (Recorded τ κ δ) κ δ} (h : Holds s) :
    Holds (server.recorded.runAll (calls.map Call.recorded) s) := by
  induction calls generalizing s with
  | nil => exact h
  | cons call calls ih => exact ih (hcall call s h)

/-! ### Made connections -/

/-- A session whose connection was made here and has led a life until now. -/
def Lives (address : String) (s : Session (Recorded τ κ δ) κ δ) : Prop :=
  IsLife address s.server.2 s.connection

/-- A session whose connection is as it was made, and that connects when it is opened next. -/
def OpensAnew (address : String) (s : Session (Recorded τ κ δ) κ δ) : Prop :=
  s.connection = .made address ∧
    ∃ answer, (server.recorded.openUp s).2.server.2 =
      s.server.2 ++ [.connecting address answer]

/-- Opening a closed connection connects it, if the server has a client for it. -/
theorem openUp_made (address : String) (t : τ) (log : List (Contact κ δ)) :
    (∃ client task t', server.recorded.openUp ⟨.made address, t, log⟩ =
      (.ok (), ⟨.opened address client task, t',
        log ++ [.connecting address (some (client, task))]⟩)) ∨
    ∃ e t', server.recorded.openUp ⟨.made address, t, log⟩ =
      (.error e, ⟨.made address, t', log ++ [.connecting address none]⟩) := by
  obtain ⟨answer, t', hconnect⟩ : ∃ answer t', server.connect address t = (answer, t') :=
    ⟨_, _, rfl⟩
  cases answer with
  | none => exact .inr ⟨_, t', openUp_of_connect_none rfl (connect_recorded log hconnect)⟩
  | some pair => exact .inl ⟨_, _, t', openUp_of_connect_some rfl (connect_recorded log hconnect)⟩

section Made

variable {server} {address : String} {s : Session (Recorded τ κ δ) κ δ}

theorem opensAnew_of_made (h : s.connection = .made address) : OpensAnew server address s := by
  obtain ⟨c, t, log⟩ := s
  obtain rfl : c = .made address := h
  obtain ⟨client, task, t', hup⟩ | ⟨e, t', hup⟩ := openUp_made server address t log
  · exact ⟨rfl, _, by rw [hup]⟩
  · exact ⟨rfl, _, by rw [hup]⟩

namespace Lives

theorem openUp (h : Lives address s) : Lives address (server.recorded.openUp s).2 := by
  obtain ⟨c, t, log⟩ := s
  obtain rfl | ⟨client, task, rfl⟩ := h.made_or_opened
  · obtain ⟨client, task, t', hup⟩ | ⟨e, t', hup⟩ := openUp_made server address t log
    · rw [hup]
      exact h.connected client task
    · rw [hup]
      exact h.refused
  · exact h

/-- A connection that cannot be opened is as it was made. -/
theorem connection_of_openUp_error (h : Lives address s) {e : Error}
    (herror : (server.recorded.openUp s).1 = .error e) :
    (server.recorded.openUp s).2.connection = .made address := by
  obtain ⟨c, t, log⟩ := s
  obtain rfl | ⟨client, task, rfl⟩ := h.made_or_opened
  · obtain ⟨client, task, t', hup⟩ | ⟨e, t', hup⟩ := openUp_made server address t log
    · rw [hup] at herror
      cases herror
    · rw [hup]
  · cases herror

/-- A closed connection is as it was made, whether or not its task has ended well. -/
theorem close (h : Lives address s) :
    Lives address (server.recorded.close s).2 ∧
      (server.recorded.close s).2.connection = .made address := by
  obtain ⟨c, t, log⟩ := s
  obtain rfl | ⟨client, task, rfl⟩ := h.made_or_opened
  · exact ⟨h, rfl⟩
  · obtain ⟨ended, t', hwait⟩ : ∃ ended t', server.wait task t = (ended, t') := ⟨_, _, rfl⟩
    rw [close_of_task_some rfl rfl (wait_recorded log hwait)]
    exact ⟨h.closed ended, rfl⟩

theorem working (h : Lives address s) (work : κ → Action τ α) :
    Lives address (working (Recorded.work work) s).state := by
  obtain ⟨c, t, log⟩ := s
  obtain rfl | ⟨client, task, rfl⟩ := h.made_or_opened
  · exact h
  · exact h.worked

/-- Behind a scope the connection is as it was made. -/
theorem inScope (h : Lives address s) (work : κ → Action τ α) :
    let s' := (server.recorded.provider.inScope (Postgres.working (Recorded.work work)) s).state
    Lives address s' ∧ s'.connection = .made address :=
  Provider.inScope_induction (Lives address)
    (fun s => Lives address s ∧ s.connection = .made address) (fun _ h => h.openUp)
    (fun _ _ h he => ⟨h.openUp, h.connection_of_openUp_error he⟩) (fun _ h => h)
    (fun _ h => h.working work) (fun _ h => h.close) h

/-- A made connection goes on living with each call. -/
theorem run (h : Lives address s) (call : Call τ κ) :
    Lives address (call.recorded.run server.recorded s) := by
  cases call with
  | openUp => exact h.openUp
  | close => exact h.close.1
  | inScope work => exact (h.inScope work).1

end Lives

end Made

/-! ### Supplied connections -/

/-- A session over a client from outside, which was only worked with. -/
structure IsSupplied (client : κ) (s : Session (Recorded τ κ δ) κ δ) : Prop where
  connection : s.connection = .supplied client
  contacts : ∀ contact ∈ s.server.2, contact = .working client

/-- A scope over a client from outside is the work of this client. -/
theorem inScope_supplied (client : κ) (work : κ → Action τ α) (t : τ) :
    server.provider.inScope (working work) ⟨.supplied client, t⟩ =
      ⟨(work client t).result, ⟨.supplied client, (work client t).state⟩,
        (work client t).events ++ [.closed]⟩ := by
  have hopen : server.provider.isOpen ⟨.supplied client, t⟩ = true := rfl
  have hwork : server.provider.reached (working work) ⟨.supplied client, t⟩ =
      ⟨(work client t).result, ⟨.supplied client, (work client t).state⟩, (work client t).events⟩ :=
    rfl
  rw [Provider.inScope_of_ok (Provider.ensureOpen_of_isOpen hopen), hwork]
  cases hresult : (work client t).result <;> rfl

theorem IsSupplied.run {client : κ} {s : Session (Recorded τ κ δ) κ δ} (h : IsSupplied client s)
    (call : Call τ κ) : IsSupplied client (call.recorded.run server.recorded s) := by
  obtain ⟨c, t, log⟩ := s
  obtain rfl : c = .supplied client := h.connection
  cases call with
  | openUp | close => exact h
  | inScope work =>
      simp only [Call.recorded, Call.run, inScope_supplied]
      refine ⟨rfl, fun contact hcontact => ?_⟩
      obtain hlog | hnew := List.mem_append.mp hcontact
      · exact h.contacts contact hlog
      · exact List.mem_singleton.mp hnew

/-! ### Sequences of calls -/

/-- After any calls, and with any answers, a made connection has led a life: it has a client and a
task or neither, and it has connected only without them. If it cannot be opened, and whenever it has
been closed, also behind a scope, it is as it was made and the next opening connects. A connection
from outside is always the same: it never connects, closing it does nothing, and all work is done by
its client. -/
theorem isLife_runAll (calls : List (Call τ κ)) (t : τ) :
    (∀ address,
      let s := server.recorded.runAll (calls.map Call.recorded) ⟨.made address, t, []⟩
      s.erase = server.runAll calls ⟨.made address, t⟩ ∧
      IsLife address s.server.2 s.connection ∧
      s.connection.client.isSome = s.connection.task.isSome ∧
      (∀ e, (server.recorded.openUp s).1 = .error e →
        OpensAnew server address (server.recorded.openUp s).2) ∧
      OpensAnew server address (server.recorded.close s).2 ∧
      ∀ (α : Type) (work : κ → Action τ α), OpensAnew server address
        (server.recorded.provider.inScope (working (Recorded.work work)) s).state) ∧
    ∀ client,
      let s := server.recorded.runAll (calls.map Call.recorded) ⟨.supplied client, t, []⟩
      s.erase = server.runAll calls ⟨.supplied client, t⟩ ∧
      s.connection = .supplied client ∧
      (∀ contact ∈ s.server.2, contact = .working client) ∧
      server.recorded.close s = (.ok (), s) ∧
      ∀ (α : Type) (work : κ → Action τ α), server.provider.inScope (working work) s.erase =
        ⟨(work client s.server.1).result, ⟨.supplied client, (work client s.server.1).state⟩,
          (work client s.server.1).events ++ [.closed]⟩ := by
  constructor
  · intro address s
    have hlives : Lives address s :=
      runAll_induction server (fun call _ h => h.run call) calls IsLife.made
    refine ⟨runAll_recorded_erase server calls _, hlives, ?_,
      fun e he => opensAnew_of_made (hlives.connection_of_openUp_error he),
      opensAnew_of_made hlives.close.2, fun α work => opensAnew_of_made (hlives.inScope work).2⟩
    obtain hc | ⟨client, task, hc⟩ := hlives.made_or_opened <;> rw [hc] <;> rfl
  · intro client s
    have hsupplied : IsSupplied client s :=
      runAll_induction server (fun call _ h => h.run server call) calls ⟨rfl, nofun⟩
    refine ⟨runAll_recorded_erase server calls _, hsupplied.connection, hsupplied.contacts, ?_, ?_⟩
    · exact close_of_external (hsupplied.connection ▸ rfl)
    · intro α work
      rw [Session.erase, hsupplied.connection, inScope_supplied]

/-- The first attempt to connect is refused; the second client is gone behind the scope. -/
example :
    let server : Server Nat Nat Nat :=
      ⟨fun _ t => (if t = 0 then none else some (t, t), t + 1), fun _ t => (false, t),
        fun _ _ t => (.error .other, t), fun _ _ t => (.error .other, t),
        fun _ t => (.error .other, t)⟩
    let work : Nat → Action Nat Unit := fun _ t => ⟨.error .query, t, []⟩
    let s := server.recorded.runAll ([.openUp, .inScope work, .close].map Call.recorded)
      ⟨.made "db", 0, []⟩
    s.connection = .made "db" ∧
      s.server.2 = [.connecting "db" none, .connecting "db" (some (1, 1)), .working 1,
        .waiting 1 false] := ⟨rfl, rfl⟩

end EntitySql.Postgres
