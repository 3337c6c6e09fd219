import ScopedLog.Proofs.Births
import ScopedLog.Proofs.Session.Frame
set_option autoImplicit false

namespace ScopedLog.Session

variable {κ : Type}

def State.Live (s : State κ) (e : Entry) : Prop :=
  ∃ P : Place, P.entryIn s = some e

def State.Holds (s : State κ) (k : Sink) : Prop :=
  ∃ (P : Place) (e : Entry), P.entryIn s = some e ∧ e.sink = k

section Living

variable {s : State κ} {name : String} {e : Entry}

theorem State.Live.holds (live : s.Live e) : s.Holds e.sink :=
  live.imp fun _ here => ⟨e, here, rfl⟩

theorem live_logger {l : Logger} (found : s.registers.loggers.get? name = some l)
    (exposed : l.asEntry = some e) : s.Live e :=
  ⟨.logger name, by rw [Place.entryIn, found, Option.bind_some, exposed]⟩

theorem live_entryNamed (found : s.entryNamed name = some e) : s.Live e :=
  live_logger (s.entryNamed_eq_some_iff.1 found) rfl

theorem live_recorder {r : Recorder} (found : s.registers.recorders.get? name = some r) :
    s.Live r.entry :=
  ⟨.recorder name, by rw [Place.entryIn, found, Option.map_some]⟩

theorem holds_sinkNamed {source : SinkName} {k : Sink} (found : s.sinkNamed source = some k) :
    s.Holds k := by
  cases source with
  | entry name =>
    obtain ⟨e, named, rfl⟩ := Option.map_eq_some_iff.1 found
    exact (live_entryNamed named).holds
  | recorder name =>
    obtain ⟨r, named, rfl⟩ := Option.map_eq_some_iff.1 found
    exact (live_recorder named).holds

theorem live_holder {holder : HolderName} {h : Holder} (there : s.holder? holder = some h) :
    s.Live h.slot :=
  ⟨.holder holder, by rw [Place.entryIn, there, Option.map_some]⟩

theorem live_binding {ctx : Context κ} (found : s.registers.contexts.get? name = some ctx)
    (mem : some e ∈ ctx.bindings) : s.Live e := by
  obtain ⟨depth, here⟩ := List.getElem?_of_mem mem
  exact ⟨.binding name depth, by rw [Place.entryIn, found, Option.bind_some, here]; rfl⟩

variable [ContextKey κ]

theorem live_bound {ctx : Context κ} (found : s.registers.contexts.get? name = some ctx)
    (bound : ctx.bound = some e) : s.Live e := by
  rw [ctx.bound_eq_head] at bound
  exact live_binding found (List.mem_of_mem_head? (Option.join_eq_some_iff.1 bound))

theorem live_resolve {ctx : Context κ} (found : s.registers.contexts.get? name = some ctx)
    {holder : HolderName} {h : Holder} (there : s.holder? holder = some h) :
    s.Live (h.resolve ctx) := by
  unfold Holder.resolve
  cases bound : ctx.bound with
  | none => exact live_holder there
  | some e => exact live_bound found bound

end Living

section Placing

variable {t : State κ} {P : Place} {e : Entry} {into : String}

theorem entryIn_keepLogger {l : Logger} (held : P.entryIn (t.keepLogger into l) = some e) :
    l.asEntry = some e ∨ P.entryIn t = some e := by
  rcases P with name | name | (_ | name) | ⟨context, depth⟩ <;> try exact .inr held
  change ((t.registers.loggers.insert into l).get? name).bind Logger.asEntry = some e at held
  rw [NameMap.get?_insert] at held
  split at held
  · exact .inl held
  · exact .inr held

theorem entryIn_keepRecorder {r : Recorder} (held : P.entryIn (t.keepRecorder into r) = some e) :
    r.entry = e ∨ P.entryIn t = some e := by
  rcases P with name | name | (_ | name) | ⟨context, depth⟩ <;> try exact .inr held
  change ((t.registers.recorders.insert into r).get? name).map (·.entry) = some e at held
  rw [NameMap.get?_insert] at held
  split at held
  · exact .inl (Option.some.inj held)
  · exact .inr held

theorem entryIn_keepHolder {name : HolderName} {h : Holder}
    (held : P.entryIn (t.keepHolder name h) = some e) : h.slot = e ∨ P.entryIn t = some e := by
  cases name with
  | shared =>
    rcases P with name | name | (_ | name) | ⟨context, depth⟩ <;> try exact .inr held
    exact .inl (Option.some.inj held)
  | own into =>
    rcases P with name | name | (_ | name) | ⟨context, depth⟩ <;> try exact .inr held
    change ((t.registers.holders.insert into h).get? name).map (·.slot) = some e at held
    rw [NameMap.get?_insert] at held
    split at held
    · exact .inl (Option.some.inj held)
    · exact .inr held

theorem entryIn_keepContext {ctx : Context κ}
    (held : P.entryIn (t.keepContext into ctx) = some e) :
    some e ∈ ctx.bindings ∨ P.entryIn t = some e := by
  rcases P with name | name | (_ | name) | ⟨context, depth⟩ <;> try exact .inr held
  change (((t.registers.contexts.insert into ctx).get? context).bind
    (·.bindings[depth]?)).join = some e at held
  rw [NameMap.get?_insert] at held
  split at held
  · exact .inl (List.mem_of_getElem? (Option.join_eq_some_iff.1 held))
  · exact .inr held

theorem entryIn_withProgram {s : State κ} {p : Program}
    (held : P.entryIn (s.withProgram p) = some e) :
    p.shared.map (·.slot) = some e ∨ P.entryIn s = some e := by
  rcases P with name | name | (_ | name) | ⟨context, depth⟩ <;> try exact .inr held
  exact .inl held

end Placing

/-- On the way from one state to another at most one sink is made, under a new identity. -/
structure State.Grows (s t : State κ) (new : Option Sink) : Prop where
  nextId : s.program.nextId ≤ t.program.nextId
  held : ∀ k, t.Holds k → s.Holds k ∨ new = some k
  fresh : ∀ k, new = some k → s.program.nextId ≤ k.id ∧ k.id < t.program.nextId

namespace State.Grows

variable {s t : State κ} {new : Option Sink}

theorem refl (s : State κ) : s.Grows s none :=
  ⟨Nat.le_refl _, fun _ => .inl, fun _ h => by cases h⟩

theorem program (h : s.Grows t new) {p : Program} (nextId : t.program.nextId ≤ p.nextId)
    (shared : p.shared = t.program.shared) : s.Grows (t.withProgram p) new := by
  refine ⟨Nat.le_trans h.nextId nextId, ?_, fun k made => ?_⟩
  · rintro _ ⟨P, e, held, rfl⟩
    rcases entryIn_withProgram held with slot | old
    · rw [shared] at slot
      exact h.held _ ⟨.holder .shared, e, slot, rfl⟩
    · exact h.held _ ⟨P, e, old, rfl⟩
  · obtain ⟨above, below⟩ := h.fresh k made
    exact ⟨above, Nat.lt_of_lt_of_le below nextId⟩

theorem keepLogger (h : s.Grows t new) (into : String) {l : Logger}
    (given : ∀ e, l.asEntry = some e → s.Holds e.sink ∨ new = some e.sink) :
    s.Grows (t.keepLogger into l) new := by
  refine ⟨h.nextId, ?_, h.fresh⟩
  rintro _ ⟨P, e, held, rfl⟩
  rcases entryIn_keepLogger held with put | old
  · exact given e put
  · exact h.held _ ⟨P, e, old, rfl⟩

theorem keepEntry (h : s.Grows t new) (into : String) {e : Entry}
    (given : s.Holds e.sink ∨ new = some e.sink) : s.Grows (t.keepLogger into (.entry e)) new :=
  h.keepLogger into fun _ same => by cases same; exact given

theorem keepRecorder (h : s.Grows t new) (into : String) {r : Recorder}
    (given : s.Holds r.sink ∨ new = some r.sink) : s.Grows (t.keepRecorder into r) new := by
  refine ⟨h.nextId, ?_, h.fresh⟩
  rintro _ ⟨P, e, held, rfl⟩
  rcases entryIn_keepRecorder held with rfl | old
  · exact given
  · exact h.held _ ⟨P, e, old, rfl⟩

theorem keepHolder (h : s.Grows t new) (name : HolderName) {holder : Holder}
    (given : s.Holds holder.slot.sink ∨ new = some holder.slot.sink) :
    s.Grows (t.keepHolder name holder) new := by
  have kept : ∀ k, (t.keepHolder name holder).Holds k → s.Holds k ∨ new = some k := by
    rintro _ ⟨P, e, held, rfl⟩
    rcases entryIn_keepHolder held with rfl | old
    · exact given
    · exact h.held _ ⟨P, e, old, rfl⟩
  cases name with
  | shared => exact ⟨h.nextId, kept, h.fresh⟩
  | own into => exact ⟨h.nextId, kept, h.fresh⟩

theorem keepContext (h : s.Grows t new) (into : String) {ctx : Context κ}
    (given : ∀ e, some e ∈ ctx.bindings → s.Holds e.sink ∨ new = some e.sink) :
    s.Grows (t.keepContext into ctx) new := by
  refine ⟨h.nextId, ?_, h.fresh⟩
  rintro _ ⟨P, e, held, rfl⟩
  rcases entryIn_keepContext held with put | old
  · exact given e put
  · exact h.held _ ⟨P, e, old, rfl⟩

theorem enriched (h : s.Grows t new) (into : String) {e : Entry} (added : Fields)
    (given : s.Holds e.sink ∨ new = some e.sink) :
    s.Grows (t.enriched into (e.withFields added)) new := by
  have silent := e.silent_withFields added t.program
  have steady := e.steady_withFields added t.program
  refine (h.program steady.nextId silent.shared).keepEntry into ?_
  rw [e.withFields_sink]
  exact given

theorem onSink (h : s.Grows t new) (into : String) {k : Sink} (given : s.Holds k ∨ new = some k) :
    s.Grows (t.enriched into (Entry.onSink k)) new := by
  have made : s.Grows (t.acted (Entry.onSink k)) new := h.program (Nat.le_succ _) rfl
  exact made.keepEntry into (e := ⟨k, t.program.nextId, ∅⟩) given

theorem create (s : State κ) (d : Destination) :
    s.Grows (s.acted (Entry.create d)) (some ⟨s.program.nextId, d⟩) := by
  have begun : s.Grows (s.acted (Entry.create d)) none :=
    (refl s).program (Nat.le_add_right _ 2) rfl
  refine ⟨begun.nextId, fun k held => (begun.held k held).imp_right nofun, ?_⟩
  rintro _ ⟨⟩
  exact ⟨Nat.le_refl _, Nat.lt_succ_of_lt (Nat.lt_succ_self _)⟩

theorem of_advances (h : s.Advances t) : ∃ new, s.Grows t new := by
  rw [h.only]
  rcases h.program.shared with kept | ⟨unset, id, set, above, below⟩
  · exact ⟨none, (refl s).program h.program.nextId kept⟩
  · let made := s.program.environment.config.builtAt id
    have sinkBelow : made.sink.id < t.program.nextId := by
      refine Nat.lt_of_le_of_lt ?_ below
      change id ≤ if s.program.environment.config.fields.isEmpty then id + 1 else id + 2
      split <;> omega
    refine ⟨some made.sink, h.program.nextId, ?_, ?_⟩
    · rintro _ ⟨P, e, held, rfl⟩
      rcases entryIn_withProgram held with slot | old
      · rw [set] at slot
        cases slot
        exact .inr rfl
      · exact .inl ⟨P, e, old, rfl⟩
    · rintro _ ⟨⟩
      exact ⟨above, sinkBelow⟩

theorem elim {α : Type} (found : Option α) {go : α → State κ}
    (h : ∀ a, found = some a → ∃ new, s.Grows (go a) new) :
    ∃ new, s.Grows (found.elim s go) new := by
  cases found with
  | none => exact ⟨none, refl s⟩
  | some a => exact h a rfl

theorem onHolder (s : State κ) (name : HolderName) {go : State κ → Holder → State κ}
    (h : ∀ (t : State κ) (holder : Holder) (new : Option Sink), s.Advances t → s.Grows t new →
      t.holder? name = some holder → ∃ new, s.Grows (go t holder) new) :
    ∃ new, s.Grows (s.onHolder name go) new := by
  have reached : s.Advances (s.reach name) := .reach s name
  obtain ⟨new, grows⟩ := of_advances reached
  unfold State.onHolder
  cases there : (s.reach name).holder? name with
  | none => exact ⟨new, grows⟩
  | some holder => exact h _ holder new reached grows there

end State.Grows

open State (Grows)

theorem grows_withError (s : State κ) (into text : String) {l : Logger}
    (given : ∀ e, l.asEntry = some e → s.Holds e.sink) :
    ∃ new, s.Grows (s.enriched into (l.withError text)) new := by
  cases l with
  | entry e => exact ⟨none, (Grows.refl s).enriched into _ (.inl (given e rfl))⟩
  | wrapper e => exact ⟨none, (Grows.refl s).enriched into _ (.inl (given e rfl))⟩
  | foreign =>
    let made : Entry := ⟨⟨s.program.nextId, .facade rootTarget⟩, s.program.nextId + 1, ∅⟩
    refine ⟨some made.sink, ?_⟩
    exact (Grows.create s (.facade rootTarget)).enriched (e := made) into
      (Fields.ofPairs [(foreignErrorKey, .str text)]) (.inr rfl)

variable [ContextKey κ]

/-- An operation hands sinks on, and makes one at most. -/
theorem grows_after (s : State κ) (op : Operation κ) : ∃ new, s.Grows (s.after op) new := by
  have here : s.Grows s none := .refl s
  by_cases quiet : op.quiet = true
  · exact Grows.of_advances (advances_after_of_quiet s quiet)
  cases op with
  | facade f => exact ⟨none, here.program (Nat.le_refl _) rfl⟩
  | background into => exact ⟨none, here.keepContext into nofun⟩
  | foreign into => exact ⟨none, here.keepLogger into nofun⟩
  | withValue source into key item =>
    refine Grows.elim _ fun ctx found => ⟨none, here.keepContext into fun e mem => ?_⟩
    exact .inl (live_binding found mem).holds
  | withHidden source into key item =>
    refine Grows.elim _ fun ctx found => ⟨none, here.keepContext into fun e mem => ?_⟩
    exact .inl (live_binding found mem).holds
  | withValues source into items =>
    refine Grows.elim _ fun ctx found => ⟨none, here.keepContext into fun e mem => ?_⟩
    rw [ctx.bindings_withValues] at mem
    exact .inl (live_binding found mem).holds
  | bind source into logger =>
    refine Grows.elim _ fun ctx found => Grows.elim _ fun l there =>
      ⟨none, here.keepContext into fun e mem => ?_⟩
    rcases List.mem_cons.1 mem with newest | older
    · exact .inl (live_logger there newest.symm).holds
    · exact .inl (live_binding found older).holds
  | recorder into least =>
    let made : Recorder := ⟨⟨⟨s.program.nextId, .capture least⟩, s.program.nextId + 1, ∅⟩⟩
    have grown := Grows.create s (.capture least)
    have kept := grown.keepRecorder into (r := made) (.inr rfl)
    exact ⟨some made.sink, kept.keepEntry into (e := made.entry) (.inr rfl)⟩
  | recorderEntry recorder into =>
    exact Grows.elim _ fun r found => ⟨none, here.keepEntry into (.inl (live_recorder found).holds)⟩
  | facadeEntry into target =>
    exact ⟨_, (Grows.create s (.facade target)).keepEntry into (.inr rfl)⟩
  | plainEntry into => exact ⟨_, (Grows.create s .plain).keepEntry into (.inr rfl)⟩
  | entryOn source into =>
    exact Grows.elim _ fun k found => ⟨none, here.onSink into (.inl (holds_sinkNamed found))⟩
  | wrapper source into =>
    refine Grows.elim _ fun e found => ⟨none, here.keepLogger into fun _ same => ?_⟩
    cases same
    exact .inl (live_entryNamed found).holds
  | clone source into =>
    exact Grows.elim _ fun e found =>
      ⟨none, here.keepEntry into (.inl (live_entryNamed found).holds)⟩
  | withPairs source into pairs =>
    exact Grows.elim _ fun e found =>
      ⟨none, here.enriched into _ (.inl (live_entryNamed found).holds)⟩
  | withFields source into fields =>
    exact Grows.elim _ fun e found =>
      ⟨none, here.enriched into _ (.inl (live_entryNamed found).holds)⟩
  | withError source into text =>
    exact Grows.elim _ fun l found =>
      grows_withError s into text fun e exposed => (live_logger found exposed).holds
  | holder into source =>
    cases source with
    | none =>
      have made := Grows.create s (.facade rootTarget)
      exact ⟨_, made.keepHolder (.own into) (.inr rfl)⟩
    | some entry =>
      exact Grows.elim _ fun e found =>
        ⟨none, here.keepHolder (.own into) (.inl (live_entryNamed found).holds)⟩
  | set holder logger =>
    refine Grows.elim _ fun l found => Grows.onHolder s holder fun t h _ reached _ there => ?_
    have offered : t.Advances (t.acted (h.set l)) := .acted t (h.advances_set l)
    obtain ⟨new, grows⟩ := Grows.of_advances (reached.trans offered)
    refine ⟨new, grows.keepHolder holder ?_⟩
    unfold Holder.offer
    cases exposed : l.asEntry with
    | none =>
      have standing := (live_holder (offered.holder? there)).holds
      exact grows.held _ standing
    | some e => exact .inl (live_logger found exposed).holds
  | get holder into =>
    change ∃ new, s.Grows (s.onHolder holder fun t h => t.keepLogger into (.entry h.slot)) new
    refine Grows.onHolder s holder fun t h new _ grows there => ⟨new, ?_⟩
    exact grows.keepEntry into (grows.held _ (live_holder there).holds)
  | bound context into =>
    exact Grows.elim _ fun ctx found => Grows.elim _ fun e bound =>
      ⟨none, here.keepEntry into (.inl (live_bound found bound).holds)⟩
  | resolve holder context into =>
    refine Grows.elim _ fun ctx found => Grows.onHolder s holder fun t h new reached grows there =>
      ⟨new, grows.keepEntry into (grows.held _ ?_)⟩
    rw [← reached.registers] at found
    exact (live_resolve found there).holds
  | logger holder context into pairs keys =>
    refine Grows.elim _ fun ctx found => Grows.onHolder s holder fun t h new reached grows there =>
      ⟨new, grows.enriched into _ (grows.held _ ?_)⟩
    rw [← reached.registers] at found
    exact (live_resolve found there).holds
  | _ => exact absurd rfl quiet

/-- Sinks are known by their identities, all of which have been given out. -/
structure State.Apart (s : State κ) : Prop where
  below : ∀ k, s.Holds k → k.id < s.program.nextId
  same : ∀ k l, s.Holds k → s.Holds l → k.id = l.id → k = l

theorem State.Apart.after {s : State κ} (h : s.Apart) (op : Operation κ) : (s.after op).Apart := by
  obtain ⟨new, grows⟩ := grows_after s op
  refine ⟨fun k held => ?_, fun k l first second same => ?_⟩
  · rcases grows.held k held with old | made
    · exact Nat.lt_of_lt_of_le (h.below k old) grows.nextId
    · exact (grows.fresh k made).2
  · rcases grows.held k first with old | made <;> rcases grows.held l second with old' | made'
    · exact h.same k l old old' same
    · have below := h.below k old
      have above := (grows.fresh l made').1
      omega
    · have below := h.below l old'
      have above := (grows.fresh k made).1
      omega
    · exact Option.some.inj (made.symm.trans made')

omit [ContextKey κ] in
theorem holds_of_begins {s : State κ} (begins : s.Begins) {k : Sink} (held : s.Holds k) :
    ∃ h, s.program.shared = some h ∧ h.slot.sink = k := by
  obtain ⟨P, e, held, rfl⟩ := held
  have empty := begins.registers
  rcases P with name | name | (_ | name) | ⟨context, depth⟩
  all_goals simp only [Place.entryIn, State.holder?, empty] at held
  · cases held
  · cases held
  · obtain ⟨h, there, rfl⟩ := Option.map_eq_some_iff.1 held
    exact ⟨h, there, rfl⟩
  · cases held
  · cases held

omit [ContextKey κ] in
theorem apart_of_begins {s : State κ} (begins : s.Begins) : s.Apart := by
  refine ⟨fun k held => ?_, fun k l first second _ => ?_⟩
  · obtain ⟨h, there, rfl⟩ := holds_of_begins begins held
    cases begins with
    | fresh env => cases there
    | inUse =>
      cases there
      exact Nat.zero_lt_succ 1
  · obtain ⟨h, there, rfl⟩ := holds_of_begins begins first
    obtain ⟨h', there', rfl⟩ := holds_of_begins begins second
    rw [Option.some.inj (there.symm.trans there')]

end ScopedLog.Session
