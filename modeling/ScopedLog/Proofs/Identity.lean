import ScopedLog.Key.Kinds
import ScopedLog.Proofs.Births
set_option autoImplicit false

namespace ScopedLog.Session

variable {κ : Type} [ContextKey κ]

variable {born : Birth → Option Entry} {o : Origins} {s : State κ}

def Carries (o : Origins) (s : State κ) (op : Operation κ) : Prop :=
  ∃ born, Follows born (o.count + 1) ((o.touched (s.after op).program).carry s op) (s.after op)

namespace Follows

omit [ContextKey κ] in
theorem still (h : Follows born o.count o s) : Follows born o.count (o.touched s.program) s := by
  rw [h.touched_of_isSome rfl]
  exact h

omit [ContextKey κ] in
theorem unmoved (h : Follows born o.count o s) :
    ∃ born, Follows born (o.count + 1) (o.touched s.program) s :=
  ⟨born, h.still.later (Nat.le_succ _)⟩

omit [ContextKey κ] in
theorem entry (h : Follows born o.count o s) {name : String} {e : Entry}
    (found : s.entryNamed name = some e) : Stands born (o.loggers name) (some e) := by
  have old : Stands born (o.loggers name) ((s.registers.loggers.get? name).bind Logger.asEntry) :=
    h.places (.logger name)
  unfold State.entryNamed at found
  split at found
  · rename_i here
    rw [here] at old
    cases found
    exact old
  · cases found

omit [ContextKey κ] in
theorem handed (h : Follows born o.count o s) (into : String) {b : Option Birth} {l : Logger}
    (held : Stands born b l.asEntry) :
    ∃ born, Follows born (o.count + 1) ((o.touched s.program).putLogger into b)
      (s.keepLogger into l) :=
  ⟨born, (h.still.putLogger into held).later (Nat.le_succ _)⟩

omit [ContextKey κ] in
theorem derived (h : Follows born o.count o s) {source : String} (into : String)
    {ctx made : Context κ} (found : s.registers.contexts.get? source = some ctx)
    (same : made.bindings = ctx.bindings) :
    ∃ born, Follows born (o.count + 1)
      ((o.touched s.program).putBindings into (o.bindings source)) (s.keepContext into made) := by
  refine ⟨born, (h.still.putBindings into fun i => ?_).later (Nat.le_succ _)⟩
  have old := h.places (.binding source i)
  rw [Place.entryIn, found] at old
  rw [same]
  exact old

theorem carries_quiet (h : Follows born o.count o s) {op : Operation κ} (quiet : op.quiet = true)
    (nothing : ∀ o : Origins, o.carry s op = o) : Carries o s op := by
  obtain ⟨born, reached⟩ := h.reached (advances_after_of_quiet s quiet)
  rw [Carries, nothing]
  exact ⟨born, reached.later (Nat.le_succ _)⟩

theorem carries_facade (h : Follows born o.count o s) (f : Facade) : Carries o s (.facade f) := by
  refine ⟨born, ⟨h.births.mono (Nat.le_succ _) (Nat.le_refl _) id, fun P => ?_⟩⟩
  have held := h.still.places P
  rcases P with name | name | (_ | name) | ⟨context, depth⟩ <;> exact held

theorem carries_bind (h : Follows born o.count o s) (source into logger : String) :
    Carries o s (.bind source into logger) := by
  simp only [Carries, State.after, Origins.carry, State.onContext, State.onLogger]
  cases found : s.registers.contexts.get? source with
  | none => exact h.unmoved
  | some ctx =>
    cases there : s.registers.loggers.get? logger with
    | none => exact h.unmoved
    | some l =>
      refine ⟨born, (h.still.putBindings into fun i => ?_).later (Nat.le_succ _)⟩
      cases i with
      | zero =>
        have newest := h.places (.logger logger)
        rw [Place.entryIn, there] at newest
        exact newest
      | succ i =>
        have old := h.places (.binding source i)
        rw [Place.entryIn, found] at old
        exact old

theorem carries_recorder (h : Follows born o.count o s) (into : String) (least : Level) :
    Carries o s (.recorder into least) := by
  obtain ⟨fresh, below, shared⟩ := creates_create (.capture least) s.program
  obtain ⟨born, made, next⟩ := h.still.create fresh below shared
  have held : Stands born o.here (some ((Entry.create (.capture least)).run s.program).1) :=
    congrArg some made
  exact ⟨born, (next.putRecorder into held).putLogger into held⟩

theorem carries_holder (h : Follows born o.count o s) (into : String) (source : Option String) :
    Carries o s (.holder into source) := by
  cases source with
  | none =>
    obtain ⟨fresh, below, shared⟩ := creates_create (.facade rootTarget) s.program
    obtain ⟨born, made, next⟩ := h.still.create fresh below shared
    have held : Stands born o.here
        (some ((Entry.create (.facade rootTarget)).run s.program).1) := congrArg some made
    exact ⟨born, next.putHolder (.own into) held⟩
  | some source =>
    simp only [Carries, State.after, Origins.carry, State.onEntry]
    cases found : s.entryNamed source with
    | none => exact h.unmoved
    | some e =>
      have held : Stands born (o.loggers source) (some (Holder.of e).slot) := h.entry found
      exact ⟨born, (h.still.putHolder (.own into) held).later (Nat.le_succ _)⟩

theorem offered (h : Follows born o.count o s) {holder : HolderName} {logger : String}
    {l : Logger} (found : s.registers.loggers.get? logger = some l) {t : State κ} {old : Holder}
    (adv : s.Advances t) (here : t.holder? holder = some old) (has : s.hasHolder holder = true) :
    ∃ born, Follows born (o.count + 1)
      ((o.touched (t.keepHolder holder (old.offer l)).program).carry s (.set holder logger))
      (t.keepHolder holder (old.offer l)) := by
  obtain ⟨born, reached⟩ := h.reached adv
  have touched :
      o.touched (t.keepHolder holder (old.offer l)).program = o.touched t.program := by
    cases holder with
    | shared => exact touched_of_set o rfl (Option.isSome_iff_exists.2 ⟨old, here⟩)
    | own name => rfl
  have exposed := reached.places (.logger logger)
  rw [Place.entryIn, adv.registers, found] at exposed
  rw [touched]
  refine ⟨born, Follows.later ?_ (Nat.le_succ _)⟩
  unfold Origins.carry
  change Stands born (o.loggers logger) l.asEntry at exposed
  change Follows born o.count ((o.loggers logger).elim _ _) _
  rw [has]
  cases ask : l.asEntry with
  | none =>
    rw [ask] at exposed
    have kept : old.offer l = { old with rejected := old.rejected + 1 } := by
      rw [Holder.offer, ask]
    rw [exposed.none_left, kept]
    exact reached.keepSlot here rfl
  | some e =>
    rw [ask] at exposed
    obtain ⟨b, origin, held⟩ := exposed.some_left
    have taken : old.offer l = { old with slot := e } := by
      rw [Holder.offer, ask]
    rw [origin, taken]
    exact reached.putHolder holder (congrArg some held)

theorem carries_set (h : Follows born o.count o s) (holder : HolderName) (logger : String) :
    Carries o s (.set holder logger) := by
  simp only [Carries, State.after, State.onLogger, State.onHolder]
  cases found : s.registers.loggers.get? logger with
  | none =>
    have exposed : Stands born (o.loggers logger)
        ((s.registers.loggers.get? logger).bind Logger.asEntry) := h.places (.logger logger)
    rw [found] at exposed
    refine ⟨born, ?_⟩
    change Follows born _ ((o.loggers logger).elim _ _) s
    rw [exposed.none_left]
    exact h.still.later (Nat.le_succ _)
  | some l =>
    cases there : (s.reach holder).holder? holder with
    | none =>
      obtain ⟨born, reached⟩ := h.reached (.reach s holder)
      refine ⟨born, ?_⟩
      simp only [Origins.carry, hasHolder_eq, there]
      change Follows born _ ((o.loggers logger).elim _ _) _
      cases o.loggers logger <;> exact reached.later (Nat.le_succ _)
    | some old =>
      have adv : s.Advances ((s.reach holder).acted (old.set l)) :=
        (State.Advances.reach s holder).trans (.acted _ (old.advances_set l))
      have here := (State.Advances.acted (s.reach holder) (old.advances_set l)).holder? there
      have has : s.hasHolder holder = true := by
        rw [hasHolder_eq, there]
        rfl
      exact h.offered found adv here has

theorem carries_get (h : Follows born o.count o s) (holder : HolderName) (into : String) :
    Carries o s (.get holder into) := by
  simp only [Carries, State.after, Origins.carry, State.onHolder, hasHolder_eq]
  obtain ⟨born, reached⟩ := h.reached (.reach s holder)
  cases there : (s.reach holder).holder? holder with
  | none => exact ⟨born, reached.later (Nat.le_succ _)⟩
  | some old =>
    have slot := reached.places (.holder holder)
    rw [Place.entryIn, there] at slot
    exact ⟨born, (reached.putLogger into slot).later (Nat.le_succ _)⟩

theorem carries_bound (h : Follows born o.count o s) (context into : String) :
    Carries o s (.bound context into) := by
  have flat : s.after (.bound context into) =
      ((s.registers.contexts.get? context).bind Context.bound).elim s fun e =>
        s.keepLogger into (.entry e) := by
    simp only [State.after, State.onContext]
    cases s.registers.contexts.get? context <;> rfl
  have newest := h.bound context
  rw [Carries, flat]
  change ∃ born, Follows born _ ((o.bound context).elim _ _) _
  cases found : (s.registers.contexts.get? context).bind Context.bound with
  | none =>
    rw [found] at newest
    rw [newest.none_left]
    exact h.unmoved
  | some e =>
    rw [found] at newest
    obtain ⟨b, origin, born_b⟩ := newest.some_left
    have held : Stands born (some b) (Logger.entry e).asEntry := congrArg some born_b
    rw [origin]
    exact h.handed into held

theorem carries_resolve (h : Follows born o.count o s) (holder : HolderName)
    (context into : String) : Carries o s (.resolve holder context into) := by
  simp only [Carries, State.after, Origins.carry, State.onContext, State.onHolder, hasHolder_eq]
  cases found : s.registers.contexts.get? context with
  | none => exact h.unmoved
  | some ctx =>
    have reach : s.Advances (s.reach holder) := .reach s holder
    obtain ⟨born, reached⟩ := h.reached reach
    cases there : (s.reach holder).holder? holder with
    | none => exact ⟨born, reached.later (Nat.le_succ _)⟩
    | some old =>
      have base := reached.resolved (reach.registers.symm ▸ found) there
      exact ⟨born, (reached.putLogger into base).later (Nat.le_succ _)⟩

theorem carries_logger (h : Follows born o.count o s) (holder : HolderName)
    (context into : String) (pairs : List (String × Value)) (keys : List κ) :
    Carries o s (.logger holder context into pairs keys) := by
  simp only [Carries, State.after, Origins.carry, State.onContext, State.onHolder, hasHolder_eq]
  cases found : s.registers.contexts.get? context with
  | none => exact h.unmoved
  | some ctx =>
    have reach : s.Advances (s.reach holder) := .reach s holder
    obtain ⟨born, reached⟩ := h.reached reach
    cases there : (s.reach holder).holder? holder with
    | none => exact ⟨born, reached.later (Nat.le_succ _)⟩
    | some old =>
      let made := (s.reach holder).enriched into (old.loggerWithFields ctx pairs keys)
      have kept : o.touched made.program = o.touched (s.reach holder).program :=
        touched_congr o ((old.resolve ctx).silent_withFields _ (s.reach holder).program).shared
      have base : Stands born ((o.touched made.program).resolved holder context)
          (some (old.resolve ctx)) :=
        kept ▸ reached.resolved (reach.registers.symm ▸ found) there
      have next := reached.enriched base ((ctx.fieldsFor keys).merge (Fields.ofPairs pairs)) into
      rw [isEmpty_enrichment] at next
      exact next

theorem carries (h : Follows born o.count o s) (op : Operation κ) : Carries o s op := by
  cases op with
  | facade f => exact h.carries_facade f
  | background into =>
    have held (i : Nat) : Stands born ([] : List (Option Birth))[i]?.join
        (Context.background : Context κ).bindings[i]?.join := rfl
    exact ⟨born, (h.still.putBindings into held).later (Nat.le_succ _)⟩
  | withValue source into key item =>
    simp only [Carries, State.after, Origins.carry, State.onContext]
    cases found : s.registers.contexts.get? source with
    | none => exact h.unmoved
    | some ctx => exact h.derived into found (ctx.bindings_withValue key item)
  | withHidden source into key item =>
    simp only [Carries, State.after, Origins.carry, State.onContext]
    cases found : s.registers.contexts.get? source with
    | none => exact h.unmoved
    | some ctx => exact h.derived into found (ctx.bindings_withHidden key item)
  | withValues source into items =>
    simp only [Carries, State.after, Origins.carry, State.onContext]
    cases found : s.registers.contexts.get? source with
    | none => exact h.unmoved
    | some ctx => exact h.derived into found (ctx.bindings_withValues items)
  | bind source into logger => exact h.carries_bind source into logger
  | recorder into least => exact h.carries_recorder into least
  | recorderEntry recorder into =>
    simp only [Carries, State.after, Origins.carry, State.onRecorder]
    cases found : s.registers.recorders.get? recorder with
    | none => exact h.unmoved
    | some r =>
      have old := h.places (.recorder recorder)
      rw [Place.entryIn, found] at old
      exact h.handed into old
  | facadeEntry into target => exact h.still.made (creates_create _) into
  | plainEntry into => exact h.still.made (creates_create _) into
  | entryOn source into =>
    simp only [Carries, State.after, Origins.carry, State.onSink]
    cases s.sinkNamed source with
    | none => exact h.unmoved
    | some k => exact h.still.made (creates_onSink k) into
  | foreign into =>
    have held : Stands born none Logger.foreign.asEntry := rfl
    exact h.handed into held
  | wrapper source into =>
    simp only [Carries, State.after, Origins.carry, State.onEntry]
    cases found : s.entryNamed source with
    | none => exact h.unmoved
    | some e => exact h.handed into (h.entry found)
  | withPairs source into pairs =>
    simp only [Carries, State.after, Origins.carry, State.onEntry]
    cases found : s.entryNamed source with
    | none => exact h.unmoved
    | some e =>
      rw [← isEmpty_ofPairs]
      exact h.still.enriched (h.entry found) (Fields.ofPairs pairs) into
  | withFields source into fields =>
    simp only [Carries, State.after, Origins.carry, State.onEntry]
    cases found : s.entryNamed source with
    | none => exact h.unmoved
    | some e => exact h.still.enriched (h.entry found) fields into
  | withError source into text =>
    simp only [Carries, State.after, Origins.carry, State.onLogger]
    cases found : s.registers.loggers.get? source with
    | none => exact h.unmoved
    | some l => exact h.still.made (creates_withError l text) into
  | clone source into =>
    simp only [Carries, State.after, Origins.carry, State.onEntry]
    cases found : s.entryNamed source with
    | none => exact h.unmoved
    | some e => exact h.handed into (h.entry found)
  | holder into source => exact h.carries_holder into source
  | set holder logger => exact h.carries_set holder logger
  | get holder into => exact h.carries_get holder into
  | bound context into => exact h.carries_bound context into
  | resolve holder context into => exact h.carries_resolve holder context into
  | logger holder context into pairs keys => exact h.carries_logger holder context into pairs keys
  | value | valueJson | contains | inspectContext | compare | inspectEntry | log | enabled | emit |
    records | messages | last | hasMessage | assertMessage | clear | capture | inspectHolder |
    rejected => exact h.carries_quiet rfl fun _ => rfl

theorem next (h : Follows born o.count o s) (op : Operation κ) :
    ∃ born, Follows born (o.count + 1) (o.next s op) (s.after op) := by
  obtain ⟨born, carried⟩ := h.carries op
  exact ⟨born, carried.recount (o.count + 1)⟩

end Follows

theorem follows_along {s : State κ} (begins : s.Begins) (ops : List (Operation κ)) :
    ∃ born, Follows born (Origins.along s (moments s ops)).count (.along s (moments s ops))
      (run s ops).2 := by
  refine run_induction (motive := fun past t =>
    ∃ born, Follows born (Origins.along s past).count (.along s past) t) ?_ ?_
  · exact follows_start begins
  · rintro past t op - ⟨born, follows⟩
    rw [Origins.along_append]
    exact follows.next op

omit [ContextKey κ]

theorem Follows.traced {n : Nat} (h : Follows born n o s) {P : Place} {a : Entry}
    (here : P.entryIn s = some a) : ∃ c, P.birth? o = some c ∧ born c = some a := by
  have held := h.places P
  rw [here] at held
  exact held.some_left

theorem Births.sameAs_iff {n : Nat} {p : Program} (h : Births born n p) {c d : Birth}
    {a b : Entry} (hc : born c = some a) (hd : born d = some b) :
    a.sameAs b = true ↔ c = d := by
  constructor
  · intro same
    exact h.apart c d a b hc hd ((Entry.sameAs_eq_true_iff a b).1 same).2
  · rintro rfl
    cases hc.symm.trans hd
    exact Entry.equivalence_sameAs.refl a

variable [ContextKey κ]

/-- At the end of any run every live entry traces back to one creation, and two of them are the same
    exactly if it is the same one. -/
theorem sameAs_iff_same_birth {s : State κ} (begins : s.Begins) (ops : List (Operation κ)) :
    (Equivalence fun a b : Entry => a.sameAs b = true) ∧
    ∀ (P Q : Place) (a b : Entry),
      P.entryIn (run s ops).2 = some a → Q.entryIn (run s ops).2 = some b →
      ∃ c d, P.birth? (.along s (moments s ops)) = some c ∧
        Q.birth? (.along s (moments s ops)) = some d ∧
        (∀ i, c = .made i →
          ∃ m, (moments s ops)[i]? = some m ∧ m.operation.creates m.before = true) ∧
        (a.sameAs b = true ↔ c = d) ∧
        (a.sameAs b = true → a.sink = b.sink ∧ a.fields = b.fields) ∧
        (∀ i j, c = .made i → d = .made j → i ≠ j → a.sameAs b = false) := by
  refine ⟨Entry.equivalence_sameAs, fun P Q a b hP hQ => ?_⟩
  obtain ⟨born, follows⟩ := follows_along begins ops
  obtain ⟨c, origin, hc⟩ := follows.traced hP
  obtain ⟨d, origin', hd⟩ := follows.traced hQ
  have same : a.sameAs b = true ↔ c = d := follows.births.sameAs_iff hc hd
  refine ⟨c, d, origin, origin', ?_, same, ?_, ?_⟩
  · rintro i rfl
    exact Origins.creates_of_knows ⟨P, origin⟩
  · intro h
    rw [same.1 h] at hc
    cases hc.symm.trans hd
    exact ⟨rfl, rfl⟩
  · rintro i j rfl rfl apart
    rw [Bool.eq_false_iff, Ne, same]
    exact fun h => apart (Birth.made.inj h)

theorem enriched_alike_apart :
    let ops : List (Operation Key) := [.plainEntry "a", .withPairs "a" "b" [("k", .str "v")],
      .withPairs "a" "c" [("k", .str "v")]]
    ∃ b c, Place.entryIn (run .inUse ops).2 (.logger "b") = some b ∧
      Place.entryIn (run .inUse ops).2 (.logger "c") = some c ∧
      b.fields = c.fields ∧ b.sameAs c = false := by
  intro ops
  refine ⟨_, _, rfl, rfl, rfl, ?_⟩
  obtain ⟨x, y, hx, hy, -, -, -, apart⟩ :=
    (sameAs_iff_same_birth .inUse ops).2 (.logger "b") (.logger "c") _ _ rfl rfl
  have first : some x = some (.made 1) := hx.symm.trans rfl
  have second : some y = some (.made 2) := hy.symm.trans rfl
  exact apart 1 2 (Option.some.inj first) (Option.some.inj second) (by decide)

end ScopedLog.Session
