import Gatehouse.Proofs.Answers
import Gatehouse.Proofs.Issued

/-! The addresses of the endpoints. Identifiers stand in a path as they are, whatever characters
    they have, so the paths of two endpoints could meet. With one method they do so once: the path
    for changes to many configurations is that of a configuration with the name `batch`. Apart from
    this the method and the address of a request tell which endpoint made it, and with which
    identifiers. It is enough to look at what the paths begin with: of two paths that are the same,
    one begins with the fixed beginning of the other. -/

namespace Gatehouse

variable {setup : Setup} {s t : State} {q : Request}

/-! ### Requests of endpoints -/

/-- What a call waits for is the reply to its request. -/
theorem Service.isFor_of_waits {toLogin : Job Unit} {c : Call} {notify : Bool}
    {resume : Reply → State → Progress State (Except Fault Answer)}
    (h : call setup toLogin c notify s = .waits t q resume) : ∃ u, q.IsFor setup c u := by
  obtain ⟨u, r, hmade, -, hr⟩ := requestOf_apply setup c s
  cases r with
  | error f => cases (Flow.bind_of_error hmade _).symm.trans h
  | ok p =>
    rw [call, Flow.bind_of_ok hmade] at h
    rcases exchange_apply p u with hex | hex
    · rw [Flow.bind_apply, hex] at h
      cases h
      exact ⟨u, hr q rfl⟩
    · cases (Flow.bind_of_error hex _).symm.trans h

namespace Endpoint

variable {e e' : Endpoint} {ids ids' : List String}

/-- An endpoint, used with these identifiers in its path and with whatever it sends along, makes
    this request: it waits for the reply to it. What is asked on the walk that a rejected credential
    leads to, is asked by the gate, and does not count. -/
structure Issues (setup : Setup) (e : Endpoint) (ids : List String) (q : Request) : Prop where
  inPath : ids.length = e.pathArguments
  waits : ∃ others s t resume,
    (Operation.endpoint e (ids.map Json.str ++ others)).run setup s = .waits t q resume

/-- The path of an endpoint with identifiers in it. -/
def pathWith (e : Endpoint) (ids : List String) : String := fill e.path (ids.map Json.str)

theorem call?_inPath (hids : ids.length = e.pathArguments) (others : List Json) :
    e.call? (ids.map Json.str ++ others) = (e.sends.parts? others).map fun parts =>
      ⟨e.method, e.pathWith ids, parts.1, parts.2⟩ := by
  have hlength : (ids.map Json.str).length = e.pathArguments := by simpa using hids
  simp only [call?, List.take_left' hlength, List.drop_left' hlength, hlength, if_true]
  rfl

/-- The method and the address of a request are those of its endpoint, with its identifiers. -/
theorem Issues.request (h : Issues setup e ids q) :
    q.method = Text.upper e.method ∧ q.url = Service.url setup.settings (e.pathWith ids) := by
  obtain ⟨hids, others, s, t, resume, hrun⟩ := h
  obtain ⟨_, hsend⟩ := Flow.waits_of_bind hrun fun v u => ⟨u, _, Flow.ofExcept_apply ..⟩
  rw [send, call?_inPath hids] at hsend
  cases hparts : e.sends.parts? others with
  | none =>
    rw [hparts] at hsend
    cases hsend
  | some parts =>
    rw [hparts] at hsend
    obtain ⟨_, hwaits⟩ := Flow.waits_of_bind hsend fun a u => ⟨u, _, Flow.ofExcept_apply ..⟩
    obtain ⟨u, hfor⟩ := Service.isFor_of_waits hwaits
    exact ⟨hfor.method, hfor.url⟩

/-- An endpoint that has something to send makes a request over an open connection. -/
theorem exists_issues (hs : s.store.InMemory) (hopen : s.connections.isOpen)
    (hids : ids.length = e.pathArguments) (others : List Json) {payload params : Json}
    (hparts : e.sends.parts? others = some (payload, params))
    (hc : Call.Sendable ⟨e.method, e.pathWith ids, payload, params⟩)
    (hshown : ¬Call.Unshown setup.room ⟨e.method, e.pathWith ids, payload, params⟩) :
    ∃ q, Issues setup e ids q := by
  obtain ⟨q, -, hwaits⟩ :=
    ((Service.call_cases setup hs hopen hc true).resolve_left fun h => hshown h.1).2
  refine ⟨q, hids, others, s, s.noting [.requested q], ?_⟩
  simp only [Operation.run, send, call?_inPath hids, hparts, Option.map_some, Setup.send,
    Flow.bind_apply, hwaits]
  exact ⟨_, rfl⟩

/-- An endpoint that sends a payload can make a request, whatever its identifiers are. -/
theorem exists_issues_of_payload (e : Endpoint) (ids : List String) (hsends : e.sends = .payload)
    (hids : ids.length = e.pathArguments) : ∃ q, Issues .default e ids q := by
  have hs : (Pool.openedWith "a").state.store.InMemory := State.inMemory_opening ..
  have hwritten : (Json.document? (.obj [])).isSome := by decide +kernel
  have hparts : e.sends.parts? [.obj []] = some (.obj [], .null) := by
    rw [hsends]
    rfl
  refine exists_issues hs (by decide +kernel) hids [.obj []] hparts ⟨.inr hwritten, .inl rfl⟩ ?_
  rintro ⟨fields, hfields, -⟩
  cases hfields

/-! ### Paths -/

/-- The text that a path begins with, in front of its first argument. -/
def head (e : Endpoint) : String :=
  match e.path with
  | .text s :: _ => s
  | _ => ""

theorem head_prefix_pathWith (e : Endpoint) (ids : List String) :
    e.head.toList <+: (e.pathWith ids).toList := by
  unfold head
  split
  · rename_i s pieces hpath
    rw [pathWith, hpath, fill, String.toList_append]
    exact List.prefix_append ..
  · exact List.nil_prefix

/-- A path without arguments is the text that it begins with, if that is all there is. -/
theorem pathWith_of_text (h : e.path = [.text e.head]) (ids : List String) :
    e.pathWith ids = e.head := by
  rw [pathWith, h, fill, fill, String.append_empty]

/-- Where a path has no more than one place for an identifier, the identifier can be read off. -/
theorem fill_injective {pieces : List Piece} (hcount : pieces.count .argument ≤ 1)
    (hids : ids.length = pieces.count .argument) (hids' : ids'.length = pieces.count .argument)
    (h : fill pieces (ids.map Json.str) = fill pieces (ids'.map Json.str)) : ids = ids' := by
  induction pieces with
  | nil =>
    obtain rfl := List.length_eq_zero_iff.1 hids
    exact (List.length_eq_zero_iff.1 hids').symm
  | cons piece pieces ih =>
    cases piece with
    | text s =>
      have hskip : (Piece.text s :: pieces).count .argument = pieces.count .argument :=
        List.count_cons_of_ne (by simp)
      rw [hskip] at hcount hids hids'
      exact ih hcount hids hids' ((String.append_right_inj _).1 h)
    | argument =>
      rw [List.count_cons_self] at hcount hids hids'
      have hlast : pieces.count .argument = 0 := by omega
      obtain ⟨id, rfl⟩ := List.length_eq_one_iff.1 (hids.trans (by rw [hlast]))
      obtain ⟨id', rfl⟩ := List.length_eq_one_iff.1 (hids'.trans (by rw [hlast]))
      have hid : id = id' := (String.append_left_inj _).1 h
      rw [hid]

/-- A path of the service in this version of it. -/
def IsVersioned (path : String) : Prop := ['/', 'v'] <+: path.toList

/-- Such a path can be read off its address. -/
theorem url_injective {settings : Settings} {path path' : String} (hpath : IsVersioned path)
    (hpath' : IsVersioned path') (h : Service.url settings path = Service.url settings path') :
    path = path' := by
  obtain ⟨rest, hrest⟩ := hpath
  obtain ⟨rest', hrest'⟩ := hpath'
  have hdrop := String.ofList_injective ((String.append_right_inj _).1 h)
  rw [← hrest, ← hrest'] at hdrop
  have hsame : rest = rest' := by simpa using hdrop
  rw [← String.toList_inj, ← hrest, ← hrest', hsame]

/-! ### All endpoints -/

/-- The change of one configuration. -/
def updateConfig : Endpoint :=
  ⟨"configs", "update_config", "PUT", [.text "/v1/configs/", .argument], .payload, .data⟩

/-- The change of many configurations at once. -/
def batchUpdate : Endpoint :=
  plain "configs" "batch_update_configs" "PUT" "/v1/configs/batch" .payload

theorem pathWith_batch : updateConfig.pathWith ["batch"] = batchUpdate.pathWith [] := by
  decide +kernel

theorem pathArguments_le_one : ∀ e ∈ all, e.pathArguments ≤ 1 := by decide +kernel

theorem versioned_pathWith (he : e ∈ all) (ids : List String) : IsVersioned (e.pathWith ids) := by
  have hheads : ∀ e ∈ all, ['/', 'v'] <+: e.head.toList := by decide +kernel
  exact (hheads e he).trans (head_prefix_pathWith e ids)

theorem upper_method (he : e ∈ all) : Text.upper e.method = e.method := by
  have hlisted : ∀ e ∈ all, e.method ∈ ["GET", "POST", "PUT", "PATCH", "DELETE"] := by
    decide +kernel
  have hupper : ∀ m ∈ ["GET", "POST", "PUT", "PATCH", "DELETE"], Text.upper m = m := by
    decide +kernel
  exact hupper _ (hlisted e he)

/-- Where one path goes on from the beginning of another with the same method, the other is all
    text. There is one pair of which this is not true. -/
theorem eq_of_heads : ∀ e ∈ all, ∀ e' ∈ all, e.method = e'.method →
    e.head.toList <+: e'.head.toList →
    e = e' ∨ (e.path = [.text e.head] ∧ e.head ≠ e'.head) ∨
      e = updateConfig ∧ e' = batchUpdate := by
  decide +kernel

/-- Two paths that are the same, where the one begins with the beginning of the other. -/
theorem eq_of_pathWith_eq (he : e ∈ all) (he' : e' ∈ all) (hmethod : e.method = e'.method)
    (hids : ids.length = e.pathArguments) (hids' : ids'.length = e'.pathArguments)
    (h : e.pathWith ids = e'.pathWith ids') (hhead : e.head.toList <+: e'.head.toList) :
    e = e' ∧ ids = ids' ∨ e = updateConfig ∧ ids = ["batch"] ∧ e' = batchUpdate := by
  have hone := pathArguments_le_one e he
  rcases eq_of_heads e he e' he' hmethod hhead with rfl | ⟨htext, hne⟩ | ⟨rfl, rfl⟩
  · exact .inl ⟨rfl, fill_injective hone hids hids' h⟩
  · have hback : e'.head.toList <+: e.head.toList := by
      rw [← pathWith_of_text htext ids, h]
      exact head_prefix_pathWith e' ids'
    exact absurd (String.toList_inj.1 (hhead.eq_of_length_le hback.length_le)) hne
  · obtain rfl := List.length_eq_zero_iff.1 hids'
    exact .inr ⟨rfl, fill_injective hone hids rfl (h.trans pathWith_batch.symm), rfl⟩

/-- The method and the address of a request tell which endpoint made it, and with which identifiers,
    with one exception: the request that changes the configuration with the name `batch` is the one
    that changes many. Addresses are compared as texts, as they go out. -/
theorem requests_apart (setup : Setup) (e e' : Endpoint) (he : e ∈ all) (he' : e' ∈ all)
    (ids ids' : List String) (q q' : Request) (h : Issues setup e ids q)
    (h' : Issues setup e' ids' q') :
    q.method = q'.method ∧ q.url = q'.url ↔
      e = e' ∧ ids = ids' ∨ e = updateConfig ∧ ids = ["batch"] ∧ e' = batchUpdate ∨
        e = batchUpdate ∧ e' = updateConfig ∧ ids' = ["batch"] := by
  obtain ⟨hmethod, hurl⟩ := h.request
  obtain ⟨hmethod', hurl'⟩ := h'.request
  have hids := h.inPath
  have hids' := h'.inPath
  rw [hmethod, hmethod', hurl, hurl', upper_method he, upper_method he']
  constructor
  · rintro ⟨hmethods, hurls⟩
    have hpaths : e.pathWith ids = e'.pathWith ids' :=
      url_injective (versioned_pathWith he ids) (versioned_pathWith he' ids') hurls
    -- Of two beginnings of one path, one is the beginning of the other.
    rcases List.prefix_or_prefix_of_prefix (head_prefix_pathWith e ids)
      (hpaths ▸ head_prefix_pathWith e' ids') with hhead | hhead
    · rcases eq_of_pathWith_eq he he' hmethods hids hids' hpaths hhead with hsame | hbatch
      · exact .inl hsame
      · exact .inr (.inl hbatch)
    · rcases eq_of_pathWith_eq he' he hmethods.symm hids' hids hpaths.symm hhead with
        ⟨rfl, rfl⟩ | ⟨rfl, rfl, rfl⟩
      · exact .inl ⟨rfl, rfl⟩
      · exact .inr (.inr ⟨rfl, rfl, rfl⟩)
  · rintro (⟨rfl, rfl⟩ | ⟨rfl, rfl, rfl⟩ | ⟨rfl, rfl, rfl⟩)
    · exact ⟨rfl, rfl⟩
    · obtain rfl := List.length_eq_zero_iff.1 hids'
      exact ⟨rfl, by rw [pathWith_batch]⟩
    · obtain rfl := List.length_eq_zero_iff.1 hids
      exact ⟨rfl, by rw [pathWith_batch]⟩

/-- One letter that is another keeps the two apart. -/
theorem requests_apart_capital : ∃ q q', updateConfig ∈ all ∧ batchUpdate ∈ all ∧
    Issues .default updateConfig ["Batch"] q ∧ Issues .default batchUpdate [] q' ∧
    ¬(q.method = q'.method ∧ q.url = q'.url) := by
  obtain ⟨q, h⟩ := exists_issues_of_payload updateConfig ["Batch"] rfl rfl
  obtain ⟨q', h'⟩ := exists_issues_of_payload batchUpdate [] rfl rfl
  have he : updateConfig ∈ all := by decide +kernel
  have he' : batchUpdate ∈ all := by decide +kernel
  refine ⟨q, q', he, he', h, h', fun hsame => ?_⟩
  have hcases := (requests_apart .default updateConfig batchUpdate he he' _ _ q q' h h').1 hsame
  revert hcases
  decide +kernel

/-- In the place of an identifier, `batch` turns the change of one configuration into the change of
    many. -/
theorem requests_not_all_apart : ¬∀ (setup : Setup) (e e' : Endpoint), e ∈ all → e' ∈ all →
    ∀ (ids ids' : List String) (q q' : Request), Issues setup e ids q → Issues setup e' ids' q' →
      q.method = q'.method → q.url = q'.url → e = e' ∧ ids = ids' := by
  intro hapart
  obtain ⟨q, h⟩ := exists_issues_of_payload updateConfig ["batch"] rfl rfl
  obtain ⟨q', h'⟩ := exists_issues_of_payload batchUpdate [] rfl rfl
  obtain ⟨hmethod, hurl⟩ := h.request
  obtain ⟨hmethod', hurl'⟩ := h'.request
  have hsame := hapart .default updateConfig batchUpdate (by decide +kernel) (by decide +kernel)
    _ _ q q' h h' (hmethod.trans hmethod'.symm) (by rw [hurl, hurl', pathWith_batch])
  exact absurd hsame.1 (by decide +kernel)

end Endpoint

end Gatehouse
