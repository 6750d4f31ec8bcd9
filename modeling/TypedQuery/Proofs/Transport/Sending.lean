import Mathlib.Data.List.Basic
import TypedQuery.Proofs.Basic
import TypedQuery.Proofs.Client.Tracing
import TypedQuery.Proofs.Json.RoundTrip
import TypedQuery.Proofs.Query.Typing
import TypedQuery.Transport.Session

/-!
# Requests and their replies

Every request is one message, and what becomes of it depends on its own reply alone.

* `Request.Posts`: what the body of the message says, read as JSON.
* `HttpReply.Yields`, `HttpReply.Reports`: the replies with data, and those with errors.
* `Exchange.EndsWith`: what becomes of a request, in terms of its reply.
* `Session.exists_send`, `Session.exists_sendAll`: one request, and requests one after the other.
* `Session.one_message_each`: all of this for every run.
-/

namespace TypedQuery

/-! ## The message -/

/-- The header of the request's document carries a name. -/
def Request.HeadedBy (r : Request) (name : String) : Prop :=
  name ≠ "" ∧
    r.document = "query " ++ name ++ (" \x7b\n" ++ r.selection.render 1 ++ "\n\x7d")

/-- The members of the JSON object that a request is sent as. -/
structure Request.Posts (r : Request) (body : Table Json) : Prop where
  query : body.get? "query" = some (.str r.document)
  operationName : ∀ v, body.get? "operationName" = some v ↔ ∃ name, r.HeadedBy name ∧ v = .str name
  nothing_else : ∀ name ∈ body.names, name = "query" ∨ name = "operationName"
  nodup : body.names.Nodup

namespace Request

/-- The header carries the name of the operation, unless that is empty. -/
theorem headedBy_iff {r : Request} {name : String} :
    r.HeadedBy name ↔ name ≠ "" ∧ r.operationName = some name := by
  refine and_congr_right fun hname => ?_
  have hcut : r.document = "query " ++ name ++ (" \x7b\n" ++ r.selection.render 1 ++ "\n\x7d") ↔
      header r.operationName = "query " ++ name := by
    have hdocument : r.document = header r.operationName ++
        (" \x7b\n" ++ r.selection.render 1 ++ "\n\x7d") := by
      simp only [document, String.append_assoc]
    rw [hdocument, String.append_left_inj]
  rw [hcut]
  cases r.operationName with
  | none => simp [header, String.ext_iff]
  | some own =>
    by_cases hown : own = ""
    · simp [header, hown, String.ext_iff, Ne.symm hname]
    · simp [header, hown, String.append_right_inj]

/-- The texts that a request is sent as. -/
def posted (r : Request) : List (String × String) :=
  match r.operationName with
  | none => [("query", r.document)]
  | some name =>
    if name = "" then [("query", r.document)]
    else [("query", r.document), ("operationName", name)]

theorem payload_eq (r : Request) :
    Transport.payload r.document .null r.operationName = .object (Json.texts r.posted) := by
  cases hop : r.operationName with
  | none => simp [Transport.payload, posted, hop, Json.isTruthy, Json.texts]
  | some own =>
    by_cases hown : own = "" <;>
      simp [Transport.payload, posted, hop, hown, Json.isTruthy, Json.texts]

theorem posted_cases (r : Request) :
    (r.posted = [("query", r.document)] ∧ ∀ name, ¬ r.HeadedBy name) ∨
      ∃ name, r.posted = [("query", r.document), ("operationName", name)] ∧
        ∀ other, r.HeadedBy other ↔ other = name := by
  simp only [headedBy_iff, posted]
  cases r.operationName with
  | none => exact .inl ⟨rfl, by simp⟩
  | some own =>
    by_cases hown : own = ""
    · exact .inl ⟨if_pos hown, by simp [hown, eq_comm]⟩
    · refine .inr ⟨own, if_neg hown, fun other => ?_⟩
      constructor
      · rintro ⟨-, hsame⟩
        exact (Option.some.inj hsame).symm
      · rintro rfl
        exact ⟨hown, rfl⟩

theorem nodup_posted (r : Request) : (r.posted.map Prod.fst).Nodup := by
  obtain ⟨hposted, -⟩ | ⟨name, hposted, -⟩ := r.posted_cases <;> rw [hposted] <;> simp

theorem posts_posted (r : Request) : r.Posts (Json.texts r.posted) := by
  obtain ⟨hposted, hname⟩ | ⟨name, hposted, hname⟩ := r.posted_cases
  · rw [hposted]
    refine ⟨rfl, fun v => ⟨nofun, ?_⟩, by simp [Json.texts, Table.names],
      by simp [Json.texts, Table.names]⟩
    rintro ⟨name, hheaded, -⟩
    exact absurd hheaded (hname name)
  · rw [hposted]
    refine ⟨rfl, fun v => ?_, by simp [Json.texts, Table.names], by simp [Json.texts, Table.names]⟩
    simp only [hname, exists_eq_left]
    exact ⟨fun h => (Option.some.inj h).symm, fun h => h ▸ rfl⟩

end Request

/-! ## The reply -/

/-- What `data` may be in a reply, and what it then stands for. -/
inductive Envelope.DataIs : Option Json → Option (Table Json) → Prop where
  | absent : DataIs none none
  | null : DataIs (some .null) none
  | object (data : Table Json) : DataIs (some (.object data)) (some data)

/-- What `errors` may be in a reply, and what they then stand for. -/
inductive Envelope.ErrorsAre : Option Json → Option (List (Table Json)) → Prop where
  | absent : ErrorsAre none none
  | null : ErrorsAre (some .null) none
  | list (errors : List (Table Json)) :
    ErrorsAre (some (.list (errors.map fun e => .object e))) (some errors)

/-- The reply is a success, and its body an object with such data and errors. -/
structure HttpReply.Carries (reply : HttpReply) (data : Option (Table Json))
    (errors : Option (List (Table Json))) : Prop where
  success : 200 ≤ reply.status ∧ reply.status < 300
  body : ∃ members : Table Json, Transport.readBody reply.body = .ok (.object members) ∧
    Envelope.DataIs (members.get? "data") data ∧ Envelope.ErrorsAre (members.get? "errors") errors

/-- A reply with data: it has no errors. No data counts as no members. -/
def HttpReply.Yields (reply : HttpReply) (data : Table Json) : Prop :=
  ∃ d errors, reply.Carries d errors ∧ errors.getD [] = [] ∧ data = d.getD []

/-- A reply with errors, whatever its data. -/
def HttpReply.Reports (reply : HttpReply) (errors : List (Table Json)) : Prop :=
  errors ≠ [] ∧ ∃ d, reply.Carries d (some errors)

namespace Envelope

theorem dataIs_iff {v : Option Json} {data : Option (Table Json)} :
    DataIs v data ↔ dataFaults v = [] ∧ dataOf v = data := by
  constructor
  · rintro (_ | _ | data) <;> exact ⟨rfl, rfl⟩
  · rintro ⟨hv, rfl⟩
    unfold dataFaults at hv
    split at hv
    · exact .absent
    · exact .null
    · exact .object _
    · cases hv

theorem itemFaults_map_object (index : Nat) (errors : List (Table Json)) :
    itemFaults index (errors.map fun e => .object e) = [] := by
  induction errors generalizing index with
  | nil => rfl
  | cons e errors ih => exact ih (index + 1)

/-- A list without faults is a list of objects. -/
theorem eq_map_object_of_itemFaults {index : Nat} {items : List Json}
    (h : itemFaults index items = []) :
    items = (items.filterMap members?).map fun e => .object e := by
  induction items generalizing index with
  | nil => rfl
  | cons v items ih =>
    cases v with
    | object members => exact congrArg (_ :: ·) (ih h)
    | _ => cases h

theorem filterMap_members?_map_object (errors : List (Table Json)) :
    (errors.map fun e => Json.object e).filterMap members? = errors := by
  rw [List.filterMap_map]
  exact List.filterMap_some

theorem errorsAre_iff {v : Option Json} {errors : Option (List (Table Json))} :
    ErrorsAre v errors ↔ errorFaults v = [] ∧ errorsOf v = errors := by
  constructor
  · rintro (_ | _ | errors)
    · exact ⟨rfl, rfl⟩
    · exact ⟨rfl, rfl⟩
    · exact ⟨itemFaults_map_object 0 errors, congrArg some (filterMap_members?_map_object errors)⟩
  · rintro ⟨hv, rfl⟩
    unfold errorFaults at hv
    split at hv
    · exact .absent
    · exact .null
    · rename_i items
      have hitems := ErrorsAre.list (items.filterMap members?)
      rwa [← eq_map_object_of_itemFaults hv] at hitems
    · cases hv

/-- The form of an answer is right exactly if its parts are what they may be. -/
theorem ofJson_eq_ok_iff {v : Json} {e : Envelope} : ofJson v = .ok e ↔
    ∃ members : Table Json, v = .object members ∧ DataIs (members.get? "data") e.data ∧
      ErrorsAre (members.get? "errors") e.errors := by
  simp only [dataIs_iff, errorsAre_iff]
  cases v with
  | object members =>
    rw [ofJson]
    split
    · rename_i hfaults
      obtain ⟨hdata, herrors⟩ := List.append_eq_nil_iff.1 hfaults
      constructor
      · rintro ⟨⟩
        exact ⟨members, rfl, ⟨hdata, rfl⟩, herrors, rfl⟩
      · rintro ⟨_, ⟨⟩, ⟨-, hd⟩, -, he⟩
        rw [hd, he]
    · rename_i hfaults
      refine ⟨nofun, ?_⟩
      rintro ⟨_, ⟨⟩, ⟨hdata, -⟩, herrors, -⟩
      exact absurd (List.append_eq_nil_iff.2 ⟨hdata, herrors⟩) hfaults
  | _ =>
    refine ⟨nofun, ?_⟩
    rintro ⟨_, ⟨⟩, -⟩

end Envelope

namespace Transport

variable {url : Url} {reply : HttpReply}

theorem carries_iff {data : Option (Table Json)} {errors : Option (List (Table Json))} :
    reply.Carries data errors ↔ Status.isSuccess reply.status = true ∧
      ∃ v, readBody reply.body = .ok v ∧ Envelope.ofJson v = .ok ⟨data, errors⟩ := by
  simp only [Envelope.ofJson_eq_ok_iff, Status.isSuccess, Bool.and_eq_true, decide_eq_true_eq]
  constructor
  · rintro ⟨hsuccess, members, hbody, hparts⟩
    exact ⟨hsuccess, _, hbody, members, rfl, hparts⟩
  · rintro ⟨hsuccess, _, hbody, members, rfl, hparts⟩
    exact ⟨hsuccess, members, hbody, hparts⟩

/-- A reply without errors gives its data. -/
theorem receive_of_no_errors (hurl : url.isAbsolute = true) {data : Option (Table Json)}
    {errors : Option (List (Table Json))} (h : reply.Carries data errors)
    (hnone : errors.getD [] = []) : receive url reply = .ok (data.getD []) := by
  obtain ⟨hsuccess, v, hbody, hv⟩ := carries_iff.1 h
  have hresult : (Envelope.mk data errors).result = .ok (data.getD []) := by
    rcases errors with _ | _ | ⟨e, errors⟩
    · rfl
    · rfl
    · cases hnone
  simp [receive, hurl, hsuccess, hbody, bind, Except.bind, hv, hresult]

/-- A reply with errors gives all of them. -/
theorem receive_of_errors (hurl : url.isAbsolute = true) {data : Option (Table Json)}
    {errors : List (Table Json)} (h : reply.Carries data (some errors)) (hsome : errors ≠ []) :
    receive url reply = .error (.answered errors) := by
  obtain ⟨hsuccess, v, hbody, hv⟩ := carries_iff.1 h
  have hresult : (Envelope.mk data (some errors)).result = .error errors := by
    obtain ⟨e, errors, rfl⟩ := List.exists_cons_of_ne_nil hsome
    rfl
  simp [receive, hurl, hsuccess, hbody, bind, Except.bind, hv, hresult]

theorem readBody_ne_answered {body : List UInt8} {errors : List (Table Json)} :
    readBody body ≠ .error (.answered errors) := by
  intro h
  rw [readBody] at h
  split at h
  · cases h
  · split at h <;> cases h

/-- Any other reply gives an error that is none of the server's. -/
theorem receive_of_not_carries (hurl : url.isAbsolute = true)
    (h : ∀ data errors, ¬ reply.Carries data errors) :
    ∃ e, receive url reply = .error e ∧ ∀ errors, e ≠ .answered errors := by
  simp only [carries_iff, not_and, not_exists] at h
  by_cases hsuccess : Status.isSuccess reply.status = true
  · cases hbody : readBody reply.body with
    | error e =>
      refine ⟨e, by simp [receive, hurl, hsuccess, hbody, bind, Except.bind], ?_⟩
      rintro errors rfl
      exact readBody_ne_answered hbody
    | ok v =>
      cases hv : Envelope.ofJson v with
      | ok e => exact absurd hv (h e.data e.errors hsuccess v hbody)
      | error faults =>
        refine ⟨.envelope faults, ?_, fun _ => TransportError.noConfusion⟩
        simp [receive, hurl, hsuccess, hbody, bind, Except.bind, hv]
  · exact ⟨.status reply.status url.text, by simp [receive, hurl, hsuccess],
      fun _ => TransportError.noConfusion⟩

/-- What a reply can be: data, errors, or neither. -/
theorem receive_cases (hurl : url.isAbsolute = true) (reply : HttpReply) :
    (∃ data, reply.Yields data ∧ receive url reply = .ok data) ∨
      (∃ errors, reply.Reports errors ∧ receive url reply = .error (.answered errors)) ∨
      (∀ data errors, ¬ reply.Carries data errors) ∧
        ∃ e, receive url reply = .error e ∧ ∀ errors, e ≠ .answered errors := by
  by_cases h : ∃ data errors, reply.Carries data errors
  · obtain ⟨data, errors, h⟩ := h
    by_cases hnone : errors.getD [] = []
    · exact .inl ⟨_, ⟨data, errors, h, hnone, rfl⟩, receive_of_no_errors hurl h hnone⟩
    · cases errors with
      | none => exact absurd rfl hnone
      | some errors => exact .inr (.inl ⟨errors, ⟨hnone, data, h⟩, receive_of_errors hurl h hnone⟩)
  · simp only [not_exists] at h
    exact .inr (.inr ⟨h, receive_of_not_carries hurl h⟩)

theorem receive_eq_ok_iff (hurl : url.isAbsolute = true) {data : Table Json} :
    receive url reply = .ok data ↔ reply.Yields data := by
  constructor
  · intro hdata
    obtain ⟨_, hyields, h⟩ | ⟨_, -, h⟩ | ⟨-, _, h, -⟩ := receive_cases hurl reply <;>
      rw [hdata] at h
    · cases h
      exact hyields
    · cases h
    · cases h
  · rintro ⟨d, errors, h, hnone, rfl⟩
    exact receive_of_no_errors hurl h hnone

theorem receive_eq_answered_iff (hurl : url.isAbsolute = true) {errors : List (Table Json)} :
    receive url reply = .error (.answered errors) ↔ reply.Reports errors := by
  constructor
  · intro herrors
    obtain ⟨_, -, h⟩ | ⟨_, hreports, h⟩ | ⟨-, _, h, hother⟩ := receive_cases hurl reply <;>
      rw [herrors] at h
    · cases h
    · cases h
      exact hreports
    · cases h
      exact absurd rfl (hother errors)
  · rintro ⟨hsome, d, h⟩
    exact receive_of_errors hurl h hsome

end Transport

/-! ## One request -/

/-- The headers of an authentication are ASCII. -/
def Auth.IsAscii (a : Auth) : Prop :=
  ∀ h ∈ a.headers, Transport.isAscii h.1 = true ∧ Transport.isAscii h.2 = true

/-- The end point has a URL that says where to, with a host that can be named. -/
structure Transport.Delivers (t : Transport) (url : Url) : Prop where
  target : Url.target t.url = .ok url
  absolute : url.isAbsolute = true
  host : Transport.checkHost url t.auth.allHeaders = .ok ()

/-- The message posts the request to `url`: its body is the JSON object of the request. -/
structure HttpMessage.Sends (m : HttpMessage) (url : Url) (r : Request) : Prop where
  method : m.method = "POST"
  url : m.url = url
  body : ∃ members, Json.parse m.body = .ok (.object members) ∧ r.Posts members

/-- The response wrapper of the request can be made. -/
def Exchange.Wrappable (x : Exchange) : Prop := x.scope.faults.get? x.request.response = none

/-- What becomes of a request is what its own reply says: a response with the data, if there is data
and a wrapper for it, and the errors of the server, if there are any. -/
structure Exchange.EndsWith (x : Exchange) (result : Except SendError Response) : Prop where
  response : ∀ r, result = .ok r ↔
    x.Wrappable ∧ ∃ data, x.reply.Yields data ∧ r = ⟨x.request.response, data, {}⟩
  errors : ∀ errors, result = .error (.transport (.answered errors)) ↔ x.reply.Reports errors

theorem Auth.all_isAscii {a : Auth} (h : a.IsAscii) : (a.allHeaders.all fun (name, value) =>
    Transport.isAscii name && Transport.isAscii value) = true := by
  rw [List.all_eq_true]
  intro e he
  rcases Table.mem_putAll he with he | he
  · cases List.mem_singleton.1 he
    decide
  · exact Bool.and_eq_true_iff.2 (h e he)

/-- A request is posted if its end point can be reached. -/
theorem Transport.exists_post {t : Transport} {url : Url} (hd : t.Delivers url)
    (ha : t.auth.IsAscii) (r : Request) :
    ∃ m, t.post r.document .null r.operationName = .ok m ∧ m.Sends url r := by
  obtain ⟨body, hbody, hparse⟩ := Json.exists_compact?_texts r.nodup_posted
  have hpayload : (payload r.document .null r.operationName).compact? = some body := by
    rw [r.payload_eq, hbody]
  have htarget : (Url.target t.url).mapError TransportError.url = .ok url :=
    mapError_eq_ok.2 hd.target
  simp only [post, htarget, Auth.all_isAscii ha, hpayload, hd.host, bind, Except.bind, pure,
    Except.pure, Bool.not_true, Bool.false_eq_true, if_false]
  exact ⟨_, rfl, rfl, rfl, _, hparse, r.posts_posted⟩

namespace Exchange

variable {x : Exchange}

theorem wrap_eq_ok_iff {result : Except TransportError (Table Json)} {r : Response} :
    x.wrap result = .ok r ↔
      x.Wrappable ∧ ∃ data, result = .ok data ∧ r = ⟨x.request.response, data, {}⟩ := by
  cases result with
  | error e =>
    refine ⟨nofun, ?_⟩
    rintro ⟨-, _, ⟨⟩, -⟩
  | ok data =>
    rw [wrap, mapError_eq_ok, Response.make, Wrappable]
    cases x.scope.faults.get? x.request.response <;> simp [eq_comm]

theorem wrap_eq_transport_iff {result : Except TransportError (Table Json)} {e : TransportError} :
    x.wrap result = .error (.transport e) ↔ result = .error e := by
  cases result with
  | error e' => simp [wrap]
  | ok data =>
    rw [wrap, Response.make]
    cases x.scope.faults.get? x.request.response <;> constructor <;> intro h <;> cases h

theorem endsWith_receive {url : Url} (hurl : url.isAbsolute = true) :
    x.EndsWith (x.wrap (Transport.receive url x.reply)) := by
  constructor
  · intro r
    simp only [wrap_eq_ok_iff, Transport.receive_eq_ok_iff hurl]
  · intro errors
    rw [wrap_eq_transport_iff, Transport.receive_eq_answered_iff hurl]

end Exchange

namespace Session

variable {s : Session} {url : Url}

/-- One request is one message, and ends with what its reply says. -/
theorem exists_send (hd : s.transport.Delivers url) (ha : s.transport.auth.IsAscii)
    (x : Exchange) : ∃ m response, s.send x = ({ s with sent := s.sent ++ [m] }, response) ∧
      m.Sends url x.request ∧ x.EndsWith response := by
  obtain ⟨m, hpost, hm⟩ := Transport.exists_post hd ha x.request
  refine ⟨m, x.wrap (Transport.receive m.url x.reply), ?_, hm, ?_⟩
  · rw [send, Transport.execute, hpost]
  · rw [hm.url]
    exact Exchange.endsWith_receive hd.absolute

/-! ## Any number of requests -/

/-- Each request is one message more, in their order. -/
theorem exists_sendAll (hd : s.transport.Delivers url) (ha : s.transport.auth.IsAscii)
    (xs : List Exchange) : ∃ messages responses,
      s.sendAll xs = ({ s with sent := s.sent ++ messages }, responses) ∧
      (∀ k, (s.sendAll (xs.take k)).1.sent = s.sent ++ messages.take k) ∧
      Aligned (fun _ x m => m.Sends url x.request) xs messages ∧
      Aligned (fun _ x response => x.EndsWith response) xs responses := by
  induction xs generalizing s with
  | nil =>
    refine ⟨[], [], by simp [sendAll], fun k => by simp [sendAll], .nil, .nil⟩
  | cons x xs ih =>
    obtain ⟨m, response, hsend, hm, hresponse⟩ := exists_send hd ha x
    obtain ⟨messages, responses, hall, hprefix, hmessages, hresponses⟩ :=
      ih (s := { s with sent := s.sent ++ [m] }) hd ha
    refine ⟨m :: messages, response :: responses, ?_, fun k => ?_, .cons hm hmessages,
      .cons hresponse hresponses⟩
    · simp [sendAll, hsend, hall]
    · cases k with
      | zero => simp [sendAll]
      | succ k => simp [sendAll, hsend, hprefix k]

end Session

/-- The scope of the exchange is a module for a schema that some collector built. -/
def Exchange.OnBuilt (x : Exchange) : Prop :=
  ∃ calls s plan m, s ∈ Collector.built {} calls ∧ Client.Plan.ofSchema s = .ok plan ∧
    Client.Module.ofPlan plan = .ok m ∧ x.scope = m.scope

/-- Every response wrapper of such a module can be made. -/
theorem Exchange.OnBuilt.wrappable {x : Exchange} (h : x.OnBuilt) : x.Wrappable := by
  obtain ⟨calls, s, plan, m, hs, hplan, hm, hscope⟩ := h
  rw [Wrappable, hscope,
    Client.Module.faults_of_ofPlan (Collector.wellFormed_of_mem_built hs) hplan hm]
  rfl

namespace Session

/-- **One request, one message.** Send any requests to an end point that can be reached, with an
authentication whose headers are ASCII, and let the server reply with anything. The first `k`
requests are `k` messages, whatever became of them: each is a POST to the end point, whose body is
the JSON object with the document and, exactly if the header of the document carries a name, the
name. A request ends with a response exactly if its own reply is a success with an object that has
no errors, and the wrapper of the request can be made; the response then wraps the data in that
reply. It ends with the errors of the server, all of them and in their order, exactly if its own
reply is a success with an object that has errors. In every other case it ends with another error.
The wrapper can always be made if the request is one of a module whose schema was read. -/
theorem one_message_each (s : Session) {url : Url} (hd : s.transport.Delivers url)
    (ha : s.transport.auth.IsAscii) (xs : List Exchange) :
    ∃ messages responses, s.sendAll xs = ({ s with sent := s.sent ++ messages }, responses) ∧
      (∀ k, (s.sendAll (xs.take k)).1.sent = s.sent ++ messages.take k) ∧
      Aligned (fun _ x m => m.Sends url x.request) xs messages ∧
      Aligned (fun _ x response => x.EndsWith response) xs responses ∧
      ∀ x ∈ xs, x.OnBuilt → x.Wrappable := by
  obtain ⟨messages, responses, hall, hfirst, hmessages, hresponses⟩ := exists_sendAll hd ha xs
  exact ⟨messages, responses, hall, hfirst, hmessages, hresponses, fun _ _ => (·.wrappable)⟩

/-- A session with an end point that can be reached. -/
def reachable : Session := { transport := { url := "https://example.com/graphql" } }

theorem exists_delivers_reachable : ∃ url, reachable.transport.Delivers url := by
  have hurl : ((Url.target "https://example.com/graphql").toOption.any fun url =>
      url.isAbsolute && (Transport.checkHost url Auth.none.allHeaders).toOption.isSome) = true := by
    decide +kernel
  obtain ⟨url, htarget, hurl⟩ := (Option.any_eq_true ..).1 hurl
  obtain ⟨habsolute, hhost⟩ := Bool.and_eq_true_iff.1 hurl
  obtain ⟨_, hhost⟩ := Option.isSome_iff_exists.1 hhost
  exact ⟨url, toOption_eq_some.1 htarget, habsolute, toOption_eq_some.1 hhost⟩

/-- A request with a name. -/
def named : Request := ⟨.looped, "QueryResponse", some "Numbers"⟩

/-- A reply with the member `n` in its data. -/
def numbered : HttpReply where
  body := Utf8.encode "\x7b\"data\":\x7b\"n\":1\x7d,\"errors\":[]\x7d"

theorem yields_numbered : ∃ data, numbered.Yields data ∧ data.names = ["n"] := by
  have hbody : ((Transport.readBody numbered.body).toOption.bind fun v =>
      (Envelope.ofJson v).toOption.map fun e =>
        (e.errors.map List.length, e.data.map Table.names)) = some (some 0, some ["n"]) := by
    decide +kernel
  obtain ⟨v, hv, he⟩ := Option.bind_eq_some_iff.1 hbody
  obtain ⟨⟨data, errors⟩, hparts, he⟩ := Option.map_eq_some_iff.1 he
  obtain ⟨herrors, hdata⟩ := Prod.mk.inj he
  obtain ⟨errors, rfl, hempty⟩ := Option.map_eq_some_iff.1 herrors
  obtain ⟨data, rfl, hnames⟩ := Option.map_eq_some_iff.1 hdata
  have hcarries : numbered.Carries (some data) (some errors) := Transport.carries_iff.2
    ⟨by decide, v, toOption_eq_some.1 hv, toOption_eq_some.1 hparts⟩
  exact ⟨data, ⟨_, _, hcarries, List.length_eq_zero_iff.1 hempty, rfl⟩, hnames⟩

/-- A request that the server refuses, and the same request again, which it answers. -/
theorem one_message_each_after_refusal :
    ∃ url m₁ m₂ e response, reachable.transport.Delivers url ∧
      reachable.sendAll [⟨named, ⟨"client", none, [], []⟩, ⟨500, []⟩⟩,
        ⟨named, ⟨"client", none, [], []⟩, numbered⟩] =
          ({ reachable with sent := [m₁, m₂] }, [.error e, .ok response]) ∧
      m₁.Sends url named ∧ m₂.Sends url named ∧ response.data.names = ["n"] := by
  obtain ⟨url, hd⟩ := exists_delivers_reachable
  obtain ⟨messages, responses, hall, -, hmessages, hresponses, -⟩ :=
    one_message_each reachable hd (by intro h hh; cases hh)
      [⟨named, ⟨"client", none, [], []⟩, ⟨500, []⟩⟩, ⟨named, ⟨"client", none, [], []⟩, numbered⟩]
  obtain ⟨m₁, m₂, rfl⟩ := List.length_eq_two.1 hmessages.length_eq
  obtain ⟨first, second, rfl⟩ := List.length_eq_two.1 hresponses.length_eq
  have hfirst := hresponses.rel 0 _ _ rfl rfl
  have hsecond := hresponses.rel 1 _ _ rfl rfl
  obtain ⟨data, hyields, hnames⟩ := yields_numbered
  have hok := (hsecond.response _).2 ⟨rfl, data, hyields, rfl⟩
  cases first with
  | ok r =>
    obtain ⟨-, _, ⟨_, _, hcarries, -⟩, -⟩ := (hfirst.response r).1 rfl
    exact absurd hcarries.success (by decide)
  | error e =>
    subst hok
    exact ⟨url, m₁, m₂, e, _, hd, hall, hmessages.rel 0 _ _ rfl rfl, hmessages.rel 1 _ _ rfl rfl,
      hnames⟩

/-- A schema that cannot be read from a text, since the name of its field is reserved. -/
def reservedField : Schema where
  types := [("Query", { name := "Query", fields := [⟨"__init__", .named "Int", none, none⟩] })]
  queryType := "Query"

/-- A reply with data and no errors does not make a response by itself. In the module for a schema
that was put together by hand, an accessor may stand in the way of the response wrapper. -/
theorem no_response_despite_data :
    ∃ plan m, Client.Plan.ofSchema reservedField = .ok plan ∧ Client.Module.ofPlan plan = .ok m ∧
      HttpReply.Yields ⟨200, Utf8.encode "\x7b\x7d"⟩ [] ∧
      ∀ r, (reachable.send ⟨⟨⟨"Query", .scalar "__init__" .nil⟩, "QueryResponse", none⟩, m.scope,
        ⟨200, Utf8.encode "\x7b\x7d"⟩⟩).2 ≠ .ok r := by
  have hmodule : ((Client.Plan.ofSchema reservedField).toOption.bind fun plan =>
      (Client.Module.ofPlan plan).toOption.map (·.scope.faults.get? "QueryResponse")) =
        some (some (.filling "QueryResponse")) := by
    decide +kernel
  obtain ⟨plan, hplan, hmodule⟩ := Option.bind_eq_some_iff.1 hmodule
  obtain ⟨m, hm, hfault⟩ := Option.map_eq_some_iff.1 hmodule
  have htext : Encoding.decode (Utf8.encode "\x7b\x7d") = .ok "\x7b\x7d" := by decide +kernel
  have hbody : Transport.readBody (Utf8.encode "\x7b\x7d") = .ok (.object []) := by
    rw [Transport.readBody, htext]
    rfl
  refine ⟨plan, m, toOption_eq_some.1 hplan, toOption_eq_some.1 hm, ?_, fun r hr => ?_⟩
  · exact ⟨none, none, ⟨by decide, [], hbody, .absent, .absent⟩, rfl, rfl⟩
  · obtain ⟨url, hd⟩ := exists_delivers_reachable
    obtain ⟨_, response, hsend, -, hends⟩ := exists_send hd (by intro h hh; cases hh)
      ⟨⟨⟨"Query", .scalar "__init__" .nil⟩, "QueryResponse", none⟩, m.scope,
        ⟨200, Utf8.encode "\x7b\x7d"⟩⟩
    rw [hsend] at hr
    have hnone := ((hends.response r).1 hr).1
    rw [Exchange.Wrappable, hfault] at hnone
    cases hnone

end Session

end TypedQuery
