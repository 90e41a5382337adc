import Mathlib.Tactic
import ComponentFile.Proofs.Text.Units
import ComponentFile.Server.Session

/-!
The open documents of a session are the buffers of its client.

A `Client` holds its documents as units. `Client.receive?` says what a message that it sends does to
its own buffers; it is undefined for a change that is not valid at its turn.

* `Mirrors store client` relates the two sides, document by document.
* `Mirrors.heed`: a notification keeps them in step (`Store.heed` is what it does to a store).
* `receive_documents`: in an open session a message does to the documents what the notification that
  it is does, and other messages do nothing to them.
* `age_le_receive`: no message takes a session back to an earlier phase.
* `run_mirrors`: over a run that leaves the session open the two sides stay in step.
* `run_follows` is the statement for whole sessions, from the opening request on, and says what
  requests are answered from (`Follows`).
-/

namespace ComponentFile

open Text

/-! ### Stores -/

namespace Store

lemma get?_close (store : Store) (uri uri' : Text) :
    (store.close uri).get? uri' = if uri' = uri then none else store.get? uri' := by
  rw [get?, get?, close, List.find?_filter]
  split
  case isTrue h =>
    subst h
    rw [List.find?_eq_none.mpr (by simp), Option.map_none]
  case isFalse h =>
    congr 2
    funext e
    by_cases he : e.1 = uri' <;> simp [he, h]

lemma get?_put (store : Store) (uri text uri' : Text) :
    (store.put uri text).get? uri' = if uri' = uri then some text else store.get? uri' := by
  by_cases h : uri' = uri
  · subst h
    simp [put, get?]
  · rw [if_neg h]
    have hrest := get?_close store uri uri'
    rw [if_neg h] at hrest
    rw [← hrest, get?, get?, put, List.find?_cons_of_neg (by simpa using Ne.symm h)]

/-- What a notification does to the open documents. -/
def heed (store : Store) : Server.Notification → Store
  | .didOpen uri text => store.put uri text
  | .didChange uri changes => (store.change uri changes).1
  | .didClose uri => store.close uri
  | _ => store

end Store

namespace Server

/-! ### Clients -/

/-- The buffers of a client, by the identifiers of its open documents. -/
abbrev Client := Text → Option Buffer

namespace Client

/-- A client without open documents. -/
def fresh : Client := fun _ => none

/-- The buffers after a notification. There are none if a change is not valid in the buffer that the
changes before it have left; a document that is not open has nothing to change. -/
def heed? (client : Client) : Notification → Option Client
  | .didOpen uri text => some (Function.update client uri (some text.utf16))
  | .didChange uri changes =>
    match client uri with
    | none => some client
    | some buffer =>
      (changes.foldlM Buffer.change? buffer).map fun b => Function.update client uri (some b)
  | .didClose uri => some (Function.update client uri none)
  | _ => some client

end Client

/-- The notification that a message is, if it can be read as one. -/
def Session.Incoming.notification? (incoming : Session.Incoming) : Option Notification :=
  match Method.ofName? incoming.method with
  | some (.notification method) =>
    if incoming.isRequest then none else (Notification.read method incoming.params).toOption
  | _ => none

/-- The request that a message is, if it can be read as one. -/
def Session.Incoming.request? (incoming : Session.Incoming) : Option Request :=
  match Method.ofName? incoming.method with
  | some (.request method) =>
    if incoming.isRequest then (Request.read method incoming.params).toOption else none
  | _ => none

/-- The buffers after a message; only notifications matter. -/
def Client.receive? (client : Client) (incoming : Session.Incoming) : Option Client :=
  match incoming.notification? with
  | none => some client
  | some notification => client.heed? notification

/-- The buffers after a run of messages. -/
def Client.run? (client : Client) (messages : List Session.Incoming) : Option Client :=
  messages.foldlM Client.receive? client

/-- The session after a run of messages, each with the answer that the client gives if it is asked
for its configuration. -/
def Session.run (session : Session) (messages : List (Json × Session.Incoming)) : Session :=
  messages.foldl (fun session message => (session.receive message.1 message.2).1) session

/-! ### Notifications -/

/-- The open documents are the texts of the buffers. -/
def Mirrors (store : Store) (client : Client) : Prop :=
  ∀ uri, (store.get? uri).map utf16 = client uri

lemma mirrors_fresh : Mirrors {} .fresh := fun _ => rfl

/-- **A notification keeps a store and a client in step.** -/
lemma Mirrors.heed {store : Store} {client client' : Client} (h : Mirrors store client)
    {notification : Notification} (hclient : client.heed? notification = some client') :
    Mirrors (store.heed notification) client' := by
  cases notification with
  | didOpen uri text =>
      obtain rfl := Option.some.inj hclient
      intro uri'
      rw [Store.heed, Store.get?_put, Function.update_apply]
      split
      · rfl
      · exact h uri'
  | didClose uri =>
      obtain rfl := Option.some.inj hclient
      intro uri'
      rw [Store.heed, Store.get?_close, Function.update_apply]
      split
      · rfl
      · exact h uri'
  | didChange uri changes =>
      rw [Client.heed?, ← h uri] at hclient
      rw [Store.heed, Store.change]
      cases hget : store.get? uri with
      | none =>
          rw [hget] at hclient
          obtain rfl := Option.some.inj hclient
          exact h
      | some text =>
          rw [hget] at hclient
          obtain ⟨b, hb, rfl⟩ := Option.map_eq_some_iff.mp hclient
          intro uri'
          dsimp only
          rw [Store.get?_put, Function.update_apply]
          split
          · rw [Option.map_some, utf16_foldl_apply hb]
          · exact h uri'
  | ready | didChangeConfiguration | exit | unused =>
      obtain rfl := Option.some.inj hclient
      exact h

/-- Where a store and a client are in step, they have the same documents open. -/
lemma Mirrors.get?_eq_none {store : Store} {client : Client} (h : Mirrors store client)
    {uri : Text} :
    store.get? uri = none ↔ client uri = none := by
  rw [← h uri, Option.map_eq_none_iff]

lemma Mirrors.get?_eq_some {store : Store} {client : Client} (h : Mirrors store client)
    {uri text : Text} : store.get? uri = some text ↔ client uri = some text.utf16 := by
  rw [← h uri]
  constructor
  · intro hget
    rw [hget, Option.map_some]
  · intro hmap
    obtain ⟨text', hget, hsame⟩ := Option.map_eq_some_iff.mp hmap
    rw [hget, utf16_injective hsame]

/-! ### Messages -/

/-- How far a session has come. -/
def Phase.age : Phase → Nat
  | .fresh => 0
  | .running => 1
  | .shutDown => 2
  | .exited => 3

lemma Phase.age_injective : Function.Injective Phase.age := by
  intro p q h
  cases p <;> cases q <;> first | rfl | cases h

namespace Session

lemma heed_phase (session : Session) (answer : Json) (notification : Notification) :
    (session.heed answer notification).1.phase = session.phase := by
  cases notification with
  | didChange uri changes =>
      rw [heed]
      split <;> rfl
  | _ => rfl

lemma heed_documents (session : Session) (answer : Json) (notification : Notification) :
    (session.heed answer notification).1.documents = session.documents.heed notification := by
  cases notification with
  | didChange uri changes =>
      rw [heed, Store.heed, Store.change]
      cases session.documents.get? uri <;> rfl
  | _ => rfl

/-- In an open session a notification is heeded, except for the one that ends the server. -/
lemma receive_notification {session : Session} (hrunning : session.phase = .running) (answer : Json)
    {incoming : Incoming} {notification : Notification}
    (hread : incoming.notification? = some notification) (hexit : notification ≠ .exit) :
    session.receive answer incoming = ((session.heed answer notification).1,
      .handled (session.heed answer notification).2 none) := by
  rw [Incoming.notification?] at hread
  rw [receive, if_neg (by rw [hrunning]; decide)]
  split at hread
  case h_2 => cases hread
  case h_1 method hmethod =>
    split at hread
    case isTrue => cases hread
    case isFalse hrequest =>
      rw [hmethod]
      cases method with
      | exit =>
          obtain rfl : Notification.exit = notification := Option.some.inj hread
          exact absurd rfl hexit
      | _ =>
          dsimp only
          rw [if_neg (by simp [hrunning]), receiveNotification, if_neg hrequest]
          revert hread
          cases Notification.read _ incoming.params with
          | error => simp [Except.toOption]
          | ok n =>
              intro hread
              obtain rfl : n = notification := Option.some.inj hread
              rfl

lemma read_opening {params : Option Json} {request : Request}
    (h : Request.read .opening params = .ok request) : ∃ options, request = .opening options := by
  dsimp only [Request.read] at h
  cases hparams : readParams (.ofRequest .opening) params with
  | error =>
      rw [hparams] at h
      cases h
  | ok p =>
      rw [hparams] at h
      cases h
      exact ⟨_, rfl⟩

lemma read_shutdown {params : Option Json} {request : Request}
    (h : Request.read .shutdown params = .ok request) : request = .shutdown := by
  cases params with
  | none =>
      cases h
      rfl
  | some params => cases h

/-- In an open session a request is served, except for those that open and end the session. -/
lemma receive_request {session : Session} (hrunning : session.phase = .running) (answer : Json)
    {incoming : Incoming} {request : Request} (hread : incoming.request? = some request)
    (hopening : ∀ options, request ≠ .opening options) (hshutdown : request ≠ .shutdown) :
    session.receive answer incoming
      = (session, .handled (session.serve request).1 (some (session.serve request).2)) := by
  rw [Incoming.request?] at hread
  rw [receive, if_neg (by rw [hrunning]; decide)]
  split at hread
  case h_2 => cases hread
  case h_1 method hmethod =>
    split at hread
    case isFalse => cases hread
    case isTrue hrequest =>
      rw [hmethod]
      cases hparams : Request.read method incoming.params with
      | error => simp [hparams, Except.toOption] at hread
      | ok r =>
          rw [hparams] at hread
          obtain rfl : r = request := Option.some.inj hread
          cases method with
          | opening =>
              obtain ⟨options, hoptions⟩ := read_opening hparams
              exact absurd hoptions (hopening options)
          | shutdown => exact absurd (read_shutdown hparams) hshutdown
          | _ =>
              dsimp only
              rw [if_neg (by simp [hrunning]), receiveRequest, if_neg (by simp [hrequest]), hparams]

/-- A session stays as it is, or moves on to a later phase and keeps its documents. -/
def Rests (session session' : Session) : Prop :=
  session' = session
    ∨ session.phase.age < session'.phase.age ∧ session'.documents = session.documents

/-- The request that opens a session is ignored, or it opens a fresh one. -/
lemma rests_receiveOpening (session : Session) (incoming : Incoming) :
    session.Rests (session.receiveOpening incoming).1 := by
  rw [receiveOpening]
  by_cases hfresh : session.phase = .fresh
  · rw [if_neg (by simpa using hfresh)]
    split
    · exact .inl rfl
    · split
      · exact .inr ⟨by rw [hfresh]; exact Nat.zero_lt_one, rfl⟩
      · exact .inl rfl
      · exact .inl rfl
  · exact .inl (by rw [if_pos hfresh])

/-- The notification that ends the server moves every session on. -/
lemma rests_exit {session : Session} (hexited : session.phase ≠ .exited) :
    session.Rests { session with phase := .exited } := by
  refine .inr ⟨?_, rfl⟩
  cases hphase : session.phase with
  | exited => exact absurd hphase hexited
  | _ => simp [Phase.age]

/-- Nothing is heeded outside an open session. -/
lemma rests_receive_of_not_running {session : Session} (hphase : session.phase ≠ .running)
    (answer : Json) (incoming : Incoming) :
    session.Rests (session.receive answer incoming).1 := by
  rw [receive]
  split
  case isTrue => exact .inl rfl
  case isFalse hexited =>
    split
    · exact .inl rfl
    · exact rests_exit hexited
    · exact rests_receiveOpening session incoming
    · exact .inl rfl

/-- In an open session a message changes no documents, unless it is a notification other than the
one that ends the server. -/
lemma rests_receive_of_quiet {session : Session} (hphase : session.phase = .running) (answer : Json)
    {incoming : Incoming} (hquiet : ∀ n, incoming.notification? = some n → n = .exit) :
    session.Rests (session.receive answer incoming).1 := by
  rw [receive, if_neg (by rw [hphase]; decide)]
  rw [Incoming.notification?] at hquiet
  split
  · exact .inl rfl
  · exact rests_exit (by rw [hphase]; decide)
  · exact rests_receiveOpening session incoming
  case h_4 method _ _ hmethod =>
    rw [if_neg (by simpa using hphase)]
    cases method with
    | request method =>
        cases method with
        | shutdown => exact .inr ⟨by rw [hphase]; exact Nat.one_lt_two, rfl⟩
        | _ => exact .inl rfl
    | notification method =>
        refine .inl ?_
        rw [hmethod] at hquiet
        dsimp only at hquiet ⊢
        rw [receiveNotification]
        split
        · rfl
        case isFalse hrequest =>
          rw [if_neg hrequest] at hquiet
          cases hread : Notification.read method incoming.params with
          | error => rfl
          | ok n =>
              rw [hread] at hquiet
              obtain rfl := hquiet n rfl
              rfl

/-- What a message can do to an open session. -/
lemma receive_cases {session : Session} (hrunning : session.phase = .running) (answer : Json)
    (incoming : Incoming) :
    (∀ n, incoming.notification? = some n → n = .exit)
        ∧ session.Rests (session.receive answer incoming).1
      ∨ ∃ n, incoming.notification? = some n
        ∧ (session.receive answer incoming).1 = (session.heed answer n).1 := by
  by_cases hquiet : ∀ n, incoming.notification? = some n → n = .exit
  · exact .inl ⟨hquiet, rests_receive_of_quiet hrunning answer hquiet⟩
  · push Not at hquiet
    obtain ⟨n, hread, hexit⟩ := hquiet
    exact .inr ⟨n, hread, by rw [receive_notification hrunning answer hread hexit]⟩

/-- **What a message does to the documents of an open session**: what the notification that it is
does. -/
lemma receive_documents {session : Session} (hrunning : session.phase = .running) (answer : Json)
    (incoming : Incoming) :
    (session.receive answer incoming).1.documents
      = (incoming.notification?.map session.documents.heed).getD session.documents := by
  rcases receive_cases hrunning answer incoming with ⟨hquiet, hrests⟩ | ⟨n, hread, hheed⟩
  · have hkept : (session.receive answer incoming).1.documents = session.documents := by
      rcases hrests with hsame | ⟨-, hsame⟩
      · rw [hsame]
      · exact hsame
    rw [hkept]
    cases hread : incoming.notification? with
    | none => rfl
    | some n =>
        obtain rfl := hquiet n hread
        rfl
  · rw [hread, hheed]
    exact heed_documents session answer n

lemma Rests.age_le {session session' : Session} (h : session.Rests session') :
    session.phase.age ≤ session'.phase.age := by
  rcases h with rfl | ⟨hage, -⟩
  · exact le_rfl
  · exact hage.le

/-- No message takes a session back to an earlier phase. -/
lemma age_le_receive (session : Session) (answer : Json) (incoming : Incoming) :
    session.phase.age ≤ (session.receive answer incoming).1.phase.age := by
  by_cases hrunning : session.phase = .running
  · rcases receive_cases hrunning answer incoming with ⟨-, hrests⟩ | ⟨n, -, hheed⟩
    · exact hrests.age_le
    · rw [hheed, heed_phase]
  · exact (rests_receive_of_not_running hrunning answer incoming).age_le

/-! ### Runs -/

lemma age_le_run (session : Session) (messages : List (Json × Incoming)) :
    session.phase.age ≤ (session.run messages).phase.age := by
  induction messages generalizing session with
  | nil => exact le_rfl
  | cons message messages ih =>
      have hnext := ih (session.receive message.1 message.2).1
      exact (age_le_receive session message.1 message.2).trans hnext

/-- **A run that leaves an open session open keeps it in step with its client.** -/
lemma run_mirrors {session : Session} (hrunning : session.phase = .running)
    {client client' : Client} (h : Mirrors session.documents client)
    {messages : List (Json × Incoming)}
    (hclient : client.run? (messages.map (·.2)) = some client')
    (hend : (session.run messages).phase = .running) :
    Mirrors (session.run messages).documents client' := by
  induction messages generalizing session client with
  | nil =>
      obtain rfl := Option.some.inj hclient
      exact h
  | cons message messages ih =>
      obtain ⟨answer, incoming⟩ := message
      rw [List.map_cons, Client.run?, List.foldlM_cons] at hclient
      obtain ⟨middle, hmiddle, hrest⟩ := Option.bind_eq_some_iff.mp hclient
      -- the phase can only grow, so it is the same before, in between and at the end
      have hphase : (session.receive answer incoming).1.phase = .running := by
        have hbefore := age_le_receive session answer incoming
        have hafter := age_le_run (session.receive answer incoming).1 messages
        have hlast : (run (session.receive answer incoming).1 messages).phase = .running := hend
        rw [hrunning] at hbefore
        rw [hlast] at hafter
        exact Phase.age_injective (le_antisymm hafter hbefore)
      refine ih hphase ?_ hrest hend
      rw [receive_documents hrunning]
      rw [Client.receive?] at hmiddle
      cases hread : incoming.notification? with
      | none =>
          rw [hread] at hmiddle
          obtain rfl := Option.some.inj hmiddle
          exact h
      | some n =>
          rw [hread] at hmiddle
          exact h.heed hmiddle

/-! ### Whole sessions -/

/-- A session that knows the buffers of its client and answers from them. -/
structure Follows (session : Session) (client : Client) : Prop where
  /-- The documents of the session are the buffers of the client. -/
  mirrors : Mirrors session.documents client
  /-- A document is open with a text if its buffer consists of the units of the text. -/
  get?_eq_some : ∀ uri text,
    session.documents.get? uri = some text ↔ client uri = some text.utf16
  /-- A document that the client has not opened is not open. -/
  get?_eq_none : ∀ uri, session.documents.get? uri = none ↔ client uri = none
  /-- Changes of a document that is not open do nothing. -/
  unopened : ∀ answer incoming uri changes,
    incoming.notification? = some (.didChange uri changes) → client uri = none →
      session.receive answer incoming = (session, .handled [] none)
  /-- Snippets are those for the text of the buffer. -/
  completion : ∀ answer incoming uri caret text,
    incoming.request? = some (.completion uri caret) → client uri = some text.utf16 →
      session.receive answer incoming = (session, .handled []
        (some (.ok (Wire.completion (complete text caret session.configuration)))))
  /-- There are no snippets for a document that is not open. -/
  completion_unopened : ∀ answer incoming uri caret,
    incoming.request? = some (.completion uri caret) → client uri = none →
      session.receive answer incoming = (session, .handled [] (some (.ok .null)))
  /-- Quick fixes are those for the text of the buffer. -/
  codeAction : ∀ answer incoming uri line text,
    incoming.request? = some (.codeAction uri line) → client uri = some text.utf16 →
      session.receive answer incoming = (session, .handled []
        (some (.ok (Wire.codeActions uri
          (codeActions text line (session.configuration.components.map (·.name)))))))
  /-- There are no quick fixes for a document that is not open. -/
  codeAction_unopened : ∀ answer incoming uri line,
    incoming.request? = some (.codeAction uri line) → client uri = none →
      session.receive answer incoming = (session, .handled [] (some (.ok .null)))

/-- A session that knows the buffers of its client answers from them. -/
lemma follows_of_mirrors {session : Session} (hrunning : session.phase = .running) {client : Client}
    (h : Mirrors session.documents client) : session.Follows client where
  mirrors := h
  get?_eq_some _ _ := h.get?_eq_some
  get?_eq_none _ := h.get?_eq_none
  unopened answer incoming uri changes hread huri := by
    have hchange : session.documents.change uri changes = (session.documents, none) := by
      rw [Store.change, h.get?_eq_none.mpr huri]
    rw [receive_notification hrunning answer hread (by simp), heed, hchange]
  completion answer incoming uri caret text hread huri := by
    rw [receive_request hrunning answer hread (by simp) (by simp), serve, h.get?_eq_some.mpr huri]
  completion_unopened answer incoming uri caret hread huri := by
    rw [receive_request hrunning answer hread (by simp) (by simp), serve, h.get?_eq_none.mpr huri]
    rfl
  codeAction answer incoming uri line text hread huri := by
    rw [receive_request hrunning answer hread (by simp) (by simp), serve, h.get?_eq_some.mpr huri]
  codeAction_unopened answer incoming uri line hread huri := by
    rw [receive_request hrunning answer hread (by simp) (by simp), serve, h.get?_eq_none.mpr huri]
    rfl

/-- **The documents of a session are the buffers of its client**, after every run of messages from
the request that opens the session on, as long as it stays open and every change that the client
sends is valid in its own buffer at its turn. Requests are answered from these buffers. -/
theorem run_follows (answer : Json) (opening : Incoming)
    (hopening : (receive {} answer opening).1.phase = .running) (messages : List (Json × Incoming))
    (client : Client) (hclient : Client.fresh.run? (messages.map (·.2)) = some client)
    (hrunning : (run (receive {} answer opening).1 messages).phase = .running) :
    (run (receive {} answer opening).1 messages).Follows client := by
  have hnone : (receive {} answer opening).1.documents = {} := by
    have hrests : Rests {} (receive {} answer opening).1 :=
      rests_receive_of_not_running (by decide) answer opening
    rcases hrests with hsame | ⟨-, hsame⟩
    · rw [hsame]
    · exact hsame
  have hmirrors : Mirrors (receive {} answer opening).1.documents .fresh := by
    rw [hnone]
    exact mirrors_fresh
  exact follows_of_mirrors hrunning (run_mirrors hopening hmirrors hclient hrunning)

/-- `run_follows` for a document whose line break is replaced behind a pair of surrogates, while
another document is closed that was never open. -/
theorem run_follows_surrogates :
    let uri : Text := "file:///a.vue"
    let opening : Incoming := ⟨"initialize", some (.record [("capabilities", .record [])]), true⟩
    let caret (line column : Nat) : Json :=
      .record [("line", .nat line), ("character", .nat column)]
    let didOpen : Incoming := ⟨"textDocument/didOpen", some (.record [("textDocument",
      .record [("uri", .string uri), ("languageId", .str "vue"), ("version", .nat 1),
        ("text", .str "a😀\nb")])]), false⟩
    let didClose : Incoming := ⟨"textDocument/didClose", some (.record [("textDocument",
      .record [("uri", .str "file:///b.vue")])]), false⟩
    let didChange : Incoming := ⟨"textDocument/didChange", some (.record
      [("textDocument", .record [("uri", .string uri), ("version", .nat 2)]),
        ("contentChanges", .array [.record
          [("range", .record [("start", caret 0 3), ("end", caret 1 0)]), ("text", .str "é")]])]),
      false⟩
    let session := run (receive {} .null opening).1
      [(.null, didOpen), (.null, didClose), (.null, didChange)]
    session.documents.get? uri = some "a😀éb".toList
      ∧ session.documents.get? "file:///b.vue" = none := by
  intro uri opening caret didOpen didClose didChange session
  have hclient : (Client.fresh.run? [didOpen, didClose, didChange]).map
      (fun client => (client uri, client "file:///b.vue"))
        = some (some (utf16 "a😀éb".toList), none) := by decide +kernel
  obtain ⟨client, hrun, hbuffers⟩ := Option.map_eq_some_iff.mp hclient
  obtain ⟨huri, hother⟩ := Prod.mk.inj hbuffers
  have hfollows : session.Follows client :=
    run_follows .null opening (by decide +kernel) _ client hrun (by decide +kernel)
  exact ⟨(hfollows.get?_eq_some uri _).mpr huri, (hfollows.get?_eq_none _).mpr hother⟩

end Session

end Server

end ComponentFile
