import ScopedLog.Proofs.Provenance
set_option autoImplicit false

/-!
A register of births: which entry each creation so far has brought into being, all of them with
fields of different identities below the next one to be given out. A session follows its origins if
every place holds the entry that its origin stands for in the register; what an action does to the
program, and writing to one place, keeps that up.
-/
namespace ScopedLog.Session

variable {κ : Type}

/-- The register `born` stands for all births of a program before the operation `n`. -/
structure Births (born : Birth → Option Entry) (n : Nat) (p : Program) : Prop where
  below : ∀ b e, born b = some e → e.fieldsId < p.nextId
  apart : ∀ b c d e, born b = some d → born c = some e → d.fieldsId = e.fieldsId → b = c
  future : ∀ k, n ≤ k → born (.made k) = none
  unset : p.shared = none → born .seed = none

def Stands (born : Birth → Option Entry) (b : Option Birth) (e : Option Entry) : Prop :=
  b.map born = e.map some

/-- The register accounts for the births before the operation `n`, and each place of the session
    holds what its origin has brought into being. -/
structure Follows (born : Birth → Option Entry) (n : Nat) (o : Origins) (s : State κ) : Prop where
  births : Births born n s.program
  places : ∀ P : Place, Stands born (P.birth? o) (P.entryIn s)

def record (born : Birth → Option Entry) (b : Birth) (e : Entry) : Birth → Option Entry :=
  fun c => if c = b then some e else born c

theorem record_self (born : Birth → Option Entry) (b : Birth) (e : Entry) :
    record born b e b = some e := if_pos rfl

theorem record_of_born {born : Birth → Option Entry} {b : Birth} (e : Entry)
    (new : born b = none) {c : Birth} {d : Entry} (h : born c = some d) :
    record born b e c = some d := by
  by_cases same : c = b
  · rw [same, new] at h
    cases h
  · rw [record, if_neg same]
    exact h

theorem Births.record {born : Birth → Option Entry} {n m : Nat} {p q : Program} {b : Birth}
    {e : Entry} (h : Births born n p) (fresh : p.nextId ≤ e.fieldsId)
    (below : e.fieldsId < q.nextId) (later : n ≤ m) (notFuture : ∀ k, m ≤ k → .made k ≠ b)
    (unset : q.shared = none → p.shared = none ∧ b ≠ .seed) : Births (record born b e) m q where
  below c d hd := by
    by_cases same : c = b
    · rw [Session.record, if_pos same] at hd
      cases hd
      exact below
    · rw [Session.record, if_neg same] at hd
      have := h.below c d hd
      omega
  apart := by
    -- An entry of the old register has an identity below that of the new one.
    have old : ∀ c d, born c = some d → d.fieldsId ≠ e.fieldsId := by
      intro c d hd
      have := h.below c d hd
      omega
    intro c c' d d' hd hd' ids
    unfold Session.record at hd hd'
    split at hd <;> split at hd'
    · simp_all
    · cases hd
      exact absurd ids.symm (old c' d' hd')
    · cases hd'
      exact absurd ids (old c d hd)
    · exact h.apart c c' d d' hd hd' ids
  future k hk := by
    rw [Session.record, if_neg (notFuture k hk)]
    exact h.future k (Nat.le_trans later hk)
  unset hq := by
    obtain ⟨unsetBefore, notSeed⟩ := unset hq
    rw [Session.record, if_neg notSeed.symm]
    exact h.unset unsetBefore

theorem Births.mono {born : Birth → Option Entry} {n m : Nat} {p q : Program}
    (h : Births born n p) (later : n ≤ m) (nextId : p.nextId ≤ q.nextId)
    (shared : q.shared = none → p.shared = none) : Births born m q where
  below b e hb := Nat.lt_of_lt_of_le (h.below b e hb) nextId
  apart := h.apart
  future k hk := h.future k (Nat.le_trans later hk)
  unset hq := h.unset (shared hq)

theorem Stands.none_left {born : Birth → Option Entry} {b : Option Birth}
    (h : Stands born b none) : b = none :=
  Option.map_eq_none_iff.1 h

theorem Stands.some_left {born : Birth → Option Entry} {b : Option Birth} {e : Entry}
    (h : Stands born b (some e)) : ∃ c, b = some c ∧ born c = some e :=
  Option.map_eq_some_iff.1 h

theorem Stands.record {born : Birth → Option Entry} {b : Birth} (e : Entry) (new : born b = none)
    {x : Option Birth} {y : Option Entry} (h : Stands born x y) :
    Stands (record born b e) x y := by
  unfold Stands at h ⊢
  cases x with
  | none => exact h
  | some c =>
    cases y with
    | none => cases h
    | some d =>
      have held : born c = some d := Option.some.inj h
      exact congrArg some (record_of_born e new held)

namespace Follows

variable {born : Birth → Option Entry} {n : Nat} {o : Origins} {s : State κ}

theorem shared_isSome (h : Follows born n o s) : o.shared.isSome = s.program.shared.isSome := by
  have := congrArg Option.isSome (h.places (.holder .shared))
  simpa [Place.birth?, Place.entryIn, State.holder?] using this

theorem touched_of_isSome (h : Follows born n o s) {q : Program}
    (shared : q.shared.isSome = s.program.shared.isSome) : o.touched q = o := by
  have same := h.shared_isSome.trans shared.symm
  unfold Origins.touched
  cases ho : o.shared with
  | some b => rw [Option.some_or, ← ho]
  | none =>
    have unset : q.shared = none := by
      rw [ho] at same
      simpa using same.symm
    rw [unset, Option.map_none, Option.or_none, ← ho]

theorem advance (h : Follows born n o s) {q : Program} (adv : Program.Advance s.program q) :
    ∃ born, Follows born n (o.touched q) (s.withProgram q) := by
  rcases adv.shared with kept | ⟨unset, id, set, above, below⟩
  · refine ⟨born, h.births.mono (Nat.le_refl n) adv.nextId fun hq => kept ▸ hq, fun P => ?_⟩
    rw [h.touched_of_isSome (congrArg Option.isSome kept)]
    have held := h.places P
    rcases P with name | name | (_ | name) | ⟨context, depth⟩ <;> try exact held
    change Stands born o.shared (q.shared.map (·.slot))
    rw [kept]
    exact held
  · let e := s.program.environment.config.builtAt id
    have idBelow : id ≤ e.fieldsId := by
      change id ≤ if s.program.environment.config.fields.isEmpty then id + 1 else id + 2
      split <;> omega
    have notSet : o.shared = none := by
      have := h.shared_isSome
      rw [unset] at this
      simpa using this
    have unborn : born .seed = none := h.births.unset unset
    refine ⟨record born .seed e, h.births.record (Nat.le_trans above idBelow) below (Nat.le_refl n)
      (fun k _ => Birth.noConfusion) (fun hq => ?_), fun P => ?_⟩
    · cases set.symm.trans hq
    · have held := (h.places P).record e unborn
      rcases P with name | name | (_ | name) | ⟨context, depth⟩ <;> try exact held
      change Stands _ (o.shared.or (q.shared.map fun _ => .seed)) (q.shared.map (·.slot))
      rw [notSet, set]
      exact congrArg some (record_self born .seed e)

theorem create (h : Follows born n o s) {q : Program} {e : Entry}
    (fresh : s.program.nextId ≤ e.fieldsId) (below : e.fieldsId < q.nextId)
    (shared : q.shared = s.program.shared) :
    ∃ born, born (.made n) = some e ∧ Follows born (n + 1) o (s.withProgram q) := by
  have unborn : born (.made n) = none := h.births.future n (Nat.le_refl n)
  refine ⟨record born (.made n) e, record_self _ _ _, h.births.record fresh below (Nat.le_succ n)
    (fun k hk => ?_) (fun hq => ⟨shared ▸ hq, Birth.noConfusion⟩), fun P => ?_⟩
  · intro same
    cases same
    omega
  · have held := (h.places P).record e unborn
    rcases P with name | name | (_ | name) | ⟨context, depth⟩ <;> try exact held
    change Stands _ o.shared (q.shared.map (·.slot))
    rw [shared]
    exact held

theorem later (h : Follows born n o s) {m : Nat} (hm : n ≤ m) : Follows born m o s :=
  ⟨h.births.mono hm (Nat.le_refl _) id, h.places⟩

theorem putLogger (h : Follows born n o s) (into : String) {b : Option Birth} {l : Logger}
    (held : Stands born b l.asEntry) :
    Follows born n (o.putLogger into b) (s.keepLogger into l) := by
  refine ⟨h.births, fun P => ?_⟩
  have old := h.places P
  rcases P with name | name | (_ | name) | ⟨context, depth⟩ <;> try exact old
  change Stands born (if name = into then b else o.loggers name)
    (((s.registers.loggers.insert into l).get? name).bind Logger.asEntry)
  rw [NameMap.get?_insert]
  split
  · exact held
  · exact old

theorem putRecorder (h : Follows born n o s) (into : String) {b : Option Birth} {r : Recorder}
    (held : Stands born b (some r.entry)) :
    Follows born n (o.putRecorder into b) (s.keepRecorder into r) := by
  refine ⟨h.births, fun P => ?_⟩
  have old := h.places P
  rcases P with name | name | (_ | name) | ⟨context, depth⟩ <;> try exact old
  change Stands born (if name = into then b else o.recorders name)
    (((s.registers.recorders.insert into r).get? name).map (·.entry))
  rw [NameMap.get?_insert]
  split
  · exact held
  · exact old

theorem putHolder (h : Follows born n o s) (name : HolderName) {b : Option Birth} {new : Holder}
    (held : Stands born b (some new.slot)) :
    Follows born n (o.putHolder name b) (s.keepHolder name new) := by
  cases name with
  | shared =>
    refine ⟨⟨h.births.below, h.births.apart, h.births.future, fun unset => by cases unset⟩,
      fun P => ?_⟩
    have old := h.places P
    rcases P with name | name | (_ | name) | ⟨context, depth⟩ <;> try exact old
    exact held
  | own into =>
    refine ⟨h.births, fun P => ?_⟩
    have old := h.places P
    rcases P with name | name | (_ | name) | ⟨context, depth⟩ <;> try exact old
    change Stands born (if name = into then b else o.holders name)
      (((s.registers.holders.insert into new).get? name).map (·.slot))
    rw [NameMap.get?_insert]
    split
    · exact held
    · exact old

theorem putBindings (h : Follows born n o s) (into : String) {bs : List (Option Birth)}
    {ctx : Context κ} (held : ∀ i : Nat, Stands born bs[i]?.join ctx.bindings[i]?.join) :
    Follows born n (o.putBindings into bs) (s.keepContext into ctx) := by
  refine ⟨h.births, fun P => ?_⟩
  have old := h.places P
  rcases P with name | name | (_ | name) | ⟨context, depth⟩ <;> try exact old
  change Stands born (if context = into then bs else o.bindings context)[depth]?.join
    (((s.registers.contexts.insert into ctx).get? context).bind (·.bindings[depth]?)).join
  rw [NameMap.get?_insert]
  split
  · exact held depth
  · exact old

theorem bound [ContextKey κ] (h : Follows born n o s) (name : String) :
    Stands born (o.bound name) ((s.registers.contexts.get? name).bind Context.bound) := by
  have newest := h.places (.binding name 0)
  rw [Origins.bound, List.head?_eq_getElem?]
  rw [Place.entryIn] at newest
  cases here : s.registers.contexts.get? name with
  | none =>
    rw [here] at newest
    exact newest
  | some ctx =>
    rw [here] at newest
    rw [Option.bind_some, ctx.bound_eq_head, List.head?_eq_getElem?]
    exact newest

theorem resolved [ContextKey κ] (h : Follows born n o s) {context : String} {ctx : Context κ}
    (here : s.registers.contexts.get? context = some ctx) {name : HolderName} {holder : Holder}
    (there : s.holder? name = some holder) :
    Stands born (o.resolved name context) (some (holder.resolve ctx)) := by
  have bound : Stands born (o.bound context) ctx.bound := by
    have newest := h.bound context
    rw [here] at newest
    exact newest
  have slot := h.places (.holder name)
  rw [Place.entryIn, there] at slot
  unfold Stands at bound slot ⊢
  unfold Origins.resolved Holder.resolve
  rw [Option.map_or, bound, slot]
  cases ctx.bound <;> rfl

end Follows

def Creates (a : Action Entry) : Prop :=
  ∀ p, p.nextId ≤ (a.run p).1.fieldsId ∧ (a.run p).1.fieldsId < (a.run p).2.nextId ∧
    (a.run p).2.shared = p.shared

theorem creates_onSink (k : Sink) : Creates (Entry.onSink k) :=
  fun _ => ⟨Nat.le_refl _, Nat.lt_succ_self _, rfl⟩

theorem creates_create (d : Destination) : Creates (Entry.create d) :=
  fun _ => ⟨Nat.le_succ _, Nat.lt_succ_self _, rfl⟩

theorem creates_withFields (e : Entry) {added : Fields} (adds : added.isEmpty = false) :
    Creates (e.withFields added) := by
  intro p
  rw [Entry.run_withFields, adds]
  exact ⟨Nat.le_refl _, Nat.lt_succ_self _, rfl⟩

theorem creates_withError (l : Logger) (text : String) : Creates (l.withError text) := by
  -- The text of an error always has a JSON form, so there is a field to add.
  have added (name : String) (e : Entry) : Creates (e.withField name (.str text)) :=
    creates_withFields e rfl
  cases l with
  | entry e => exact added errorKey e
  | wrapper e => exact added errorKey e
  | foreign =>
    intro p
    obtain ⟨fresh, below, shared⟩ := added foreignErrorKey
      ⟨⟨p.nextId, .facade rootTarget⟩, p.nextId + 1, ∅⟩ { p with nextId := p.nextId + 2 }
    exact ⟨Nat.le_trans (Nat.le_add_right _ 2) fresh, below, shared⟩

theorem isEmpty_ofPairs (pairs : List (String × Value)) :
    (Fields.ofPairs pairs).isEmpty = givesNothing pairs := by
  rw [Bool.eq_iff_iff, NameMap.isEmpty_iff, Fields.ofPairs_eq_insertAll,
    NameMap.insertAll_eq_empty_iff, Fields.given, List.filterMap_eq_nil_iff]
  simp [givesNothing]

theorem isEmpty_enrichment [ContextKey κ] (ctx : Context κ) (keys : List κ)
    (pairs : List (String × Value)) :
    ((ctx.fieldsFor keys).merge (Fields.ofPairs pairs)).isEmpty =
      (showsNothing ctx keys && givesNothing pairs) := by
  rw [Bool.eq_iff_iff, NameMap.isEmpty_iff, ctx.enrichment_eq_insertAll,
    NameMap.insertAll_eq_empty_iff, List.append_eq_nil_iff, Context.shown, Fields.given,
    List.filterMap_eq_nil_iff, List.filterMap_eq_nil_iff]
  simp [showsNothing, givesNothing]

theorem touched_congr (o : Origins) {p q : Program} (same : p.shared = q.shared) :
    o.touched p = o.touched q := by
  unfold Origins.touched
  rw [same]

theorem touched_of_set (o : Origins) {p q : Program} (hp : p.shared.isSome) (hq : q.shared.isSome) :
    o.touched p = o.touched q := by
  obtain ⟨h, hp⟩ := Option.isSome_iff_exists.1 hp
  obtain ⟨k, hq⟩ := Option.isSome_iff_exists.1 hq
  unfold Origins.touched
  rw [hp, hq]
  rfl

theorem putHolder_self (o : Origins) (name : HolderName) :
    o.putHolder name (Place.birth? o (.holder name)) = o := by
  cases name with
  | shared => rfl
  | own into =>
    have same : Origins.put o.holders into (o.holders into) = o.holders := by
      funext name
      unfold Origins.put
      split
      · rename_i here
        rw [here]
      · rfl
    change { o with holders := Origins.put o.holders into (o.holders into) } = o
    rw [same]

theorem hasHolder_eq (s : State κ) (name : HolderName) :
    s.hasHolder name = ((s.reach name).holder? name).isSome := by
  cases name with
  | shared =>
    rw [holder?_reach_shared]
    rfl
  | own name => rfl

namespace Follows

variable {born : Birth → Option Entry} {o : Origins} {s : State κ}

theorem recount {n : Nat} (h : Follows born n o s) (count : Nat) :
    Follows born n { o with count := count } s := by
  refine ⟨h.births, fun P => ?_⟩
  have old := h.places P
  rcases P with name | name | (_ | name) | ⟨context, depth⟩ <;> exact old

theorem reached {n : Nat} (h : Follows born n o s) {t : State κ} (adv : s.Advances t) :
    ∃ born, Follows born n (o.touched t.program) t := by
  obtain ⟨born, next⟩ := h.advance adv.program
  exact ⟨born, adv.only ▸ next⟩

theorem made (h : Follows born o.count (o.touched s.program) s) {a : Action Entry}
    (creates : Creates a) (into : String) :
    ∃ born, Follows born (o.count + 1)
      ((o.touched (s.enriched into a).program).putLogger into o.here) (s.enriched into a) := by
  obtain ⟨fresh, below, shared⟩ := creates s.program
  obtain ⟨born, made, next⟩ := h.create fresh below shared
  rw [touched_congr o (show (s.enriched into a).program.shared = s.program.shared from shared)]
  exact ⟨born, next.putLogger into (congrArg some made)⟩

theorem enriched (h : Follows born o.count (o.touched s.program) s) {base : Option Birth}
    {e : Entry} (held : Stands born base (some e)) (added : Fields) (into : String) :
    ∃ born, Follows born (o.count + 1)
      ((o.touched (s.enriched into (e.withFields added)).program).putLogger into
        (o.enriched base added.isEmpty))
      (s.enriched into (e.withFields added)) := by
  cases empty : added.isEmpty with
  | true =>
    -- Adding nothing hands on the very entry that was there.
    have same : s.enriched into (e.withFields added) = s.keepLogger into (.entry e) := by
      unfold State.enriched State.acted
      rw [Entry.run_withFields, if_pos empty]
      rfl
    rw [same]
    exact ⟨born, (h.putLogger into held).later (Nat.le_succ _)⟩
  | false => exact h.made (creates_withFields e empty) into

theorem keepSlot {n : Nat} (h : Follows born n o s) {name : HolderName} {old new : Holder}
    (here : s.holder? name = some old) (slot : new.slot = old.slot) :
    Follows born n o (s.keepHolder name new) := by
  have held := h.places (.holder name)
  rw [Place.entryIn, here, Option.map_some, ← slot] at held
  have kept := h.putHolder name held
  rw [putHolder_self] at kept
  exact kept

end Follows

inductive State.Begins : State κ → Prop where
  | fresh (env : Environment) : State.Begins (.fresh env)
  | inUse : State.Begins .inUse

theorem State.Begins.registers {s : State κ} (begins : s.Begins) : s.registers = .empty := by
  cases begins <;> rfl

theorem State.Begins.below {s : State κ} (begins : s.Begins) {h : Holder}
    (here : s.program.shared = some h) : h.slot.fieldsId < s.program.nextId := by
  cases begins with
  | fresh env => cases here
  | inUse =>
    cases here
    exact Nat.lt_succ_self _

theorem follows_start {s : State κ} (begins : s.Begins) :
    ∃ born, Follows born 0 (.start s) s := by
  let born : Birth → Option Entry
    | .seed => s.program.shared.map (·.slot)
    | .made _ => none
  have only {b : Birth} {e : Entry} (h : born b = some e) :
      b = .seed ∧ s.program.shared.map (·.slot) = some e := by
    cases b with
    | seed => exact ⟨rfl, h⟩
    | made k => cases h
  refine ⟨born, ⟨fun b e h => ?_, fun b c d e hd he _ => ?_, fun k _ => rfl, fun unset => ?_⟩,
    fun P => ?_⟩
  · obtain ⟨holder, here, slot⟩ := Option.map_eq_some_iff.1 (only h).2
    exact slot ▸ begins.below here
  · exact (only hd).1.trans (only he).1.symm
  · change s.program.shared.map (·.slot) = none
    rw [unset]
    rfl
  · have empty := begins.registers
    rcases P with name | name | (_ | name) | ⟨context, depth⟩
    all_goals unfold Stands
    all_goals simp only [Place.entryIn, State.holder?]
    all_goals try rw [empty]
    · rfl
    · rfl
    · change (s.program.shared.map fun _ => Birth.seed).map born = _
      cases here : s.program.shared with
      | none => rfl
      | some h =>
        change some (s.program.shared.map (·.slot)) = some (some h.slot)
        rw [here]
        rfl
    · rfl
    · rfl

end ScopedLog.Session
