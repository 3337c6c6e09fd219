import ScopedLog.Proofs.Session.Effect
set_option autoImplicit false

namespace ScopedLog

namespace Program

structure Steady (p q : Program) : Prop where
  nextId : p.nextId ≤ q.nextId
  facade : q.facade = p.facade
  captures : q.captures = p.captures

namespace Steady

variable {p q r : Program}

theorem refl (p : Program) : Steady p p :=
  ⟨Nat.le_refl _, rfl, rfl⟩

theorem trans (first : Steady p q) (rest : Steady q r) : Steady p r :=
  ⟨Nat.le_trans first.nextId rest.nextId, rest.facade.trans first.facade,
    rest.captures.trans first.captures⟩

theorem of_advance (adv : Advance p q) (captures : q.captures = p.captures) : Steady p q :=
  ⟨adv.nextId, adv.facade, captures⟩

end Steady

theorem steady_touch (p : Program) : Steady p (touch.run p).2 := by
  refine .of_advance (advances_touch p) ?_
  rw [run_touch]
  cases p.shared <;> rfl

theorem steady_deliver (r : FacadeRecord) (p : Program) : Steady p ((deliver r).run p).2 := by
  refine .of_advance (advances_deliver r p) ?_
  rw [run_deliver]
  split
  · exact (steady_touch p).captures
  · rfl

end Program

open Program (Steady)

theorem Entry.steady_onSink (k : Sink) (p : Program) : Steady p ((Entry.onSink k).run p).2 :=
  .of_advance (Entry.advances_onSink k p) rfl

theorem Entry.steady_create (d : Destination) (p : Program) :
    Steady p ((Entry.create d).run p).2 :=
  .of_advance (Entry.advances_create d p) rfl

theorem Entry.steady_withFields (e : Entry) (added : Fields) (p : Program) :
    Steady p ((e.withFields added).run p).2 := by
  refine .of_advance (e.advances_withFields added p) ?_
  rw [Entry.run_withFields]
  split <;> rfl

theorem Logger.steady_withError (l : Logger) (text : String) (p : Program) :
    Steady p ((l.withError text).run p).2 := by
  cases l with
  | entry e => exact e.steady_withFields _ p
  | wrapper e => exact e.steady_withFields _ p
  | foreign =>
    have made := Entry.steady_create (.facade rootTarget) p
    have added := Entry.steady_withFields ((Entry.create (.facade rootTarget)).run p).1
      (Fields.ofPairs [(foreignErrorKey, .str text)]) ((Entry.create (.facade rootTarget)).run p).2
    exact made.trans added

theorem Holder.steady_set (h : Holder) (l : Logger) (p : Program) :
    Steady p ((h.set l).run p).2 := by
  refine .of_advance (h.advances_set l p) ?_
  unfold Holder.set Program.warn
  split
  · change (StateT.run (if p.facade.admits .warn then Program.deliver _ else pure () :
      Action Unit) p).2.captures = _
    split
    · exact (Program.steady_deliver _ p).captures
    · rfl
  · rfl

namespace Session

variable {κ : Type}

structure State.Frame (s t : State κ) : Prop where
  program : Steady s.program t.program
  recorders : t.registers.recorders = s.registers.recorders

namespace State.Frame

variable {s t u : State κ}

theorem refl (s : State κ) : s.Frame s :=
  ⟨.refl s.program, rfl⟩

theorem trans (first : s.Frame t) (rest : t.Frame u) : s.Frame u :=
  ⟨first.program.trans rest.program, rest.recorders.trans first.recorders⟩

theorem acted {α : Type} (s : State κ) {a : Action α} (h : Steady s.program (a.run s.program).2) :
    s.Frame (s.acted a) :=
  ⟨h, rfl⟩

theorem keepContext (h : s.Frame t) (into : String) (ctx : Context κ) :
    s.Frame (t.keepContext into ctx) :=
  ⟨h.program, h.recorders⟩

theorem keepLogger (h : s.Frame t) (into : String) (l : Logger) : s.Frame (t.keepLogger into l) :=
  ⟨h.program, h.recorders⟩

theorem keepHolder (h : s.Frame t) (name : HolderName) (new : Holder) :
    s.Frame (t.keepHolder name new) := by
  cases name with
  | shared => exact ⟨⟨h.program.nextId, h.program.facade, h.program.captures⟩, h.recorders⟩
  | own name => exact ⟨h.program, h.recorders⟩

theorem enriched (h : s.Frame t) (into : String) {a : Action Entry}
    (steady : Steady t.program (a.run t.program).2) : s.Frame (t.enriched into a) :=
  (h.trans (acted t steady)).keepLogger into _

theorem reach (s : State κ) (name : HolderName) : s.Frame (s.reach name) := by
  cases name with
  | shared => exact acted s (Program.steady_touch s.program)
  | own name => exact refl s

theorem elim {α : Type} (found : Option α) {go : α → State κ} (h : ∀ a, s.Frame (go a)) :
    s.Frame (found.elim s go) := by
  cases found with
  | none => exact refl s
  | some a => exact h a

theorem onHolder (s : State κ) (name : HolderName) {go : State κ → Holder → State κ}
    (h : ∀ (t : State κ) (holder : Holder), s.Frame t → s.Frame (go t holder)) :
    s.Frame (s.onHolder name go) := by
  unfold State.onHolder
  cases (s.reach name).holder? name with
  | none => exact reach s name
  | some holder => exact h _ holder (reach s name)

end State.Frame

def Operation.framed : Operation κ → Bool
  | .facade .. | .recorder .. | .log .. | .emit .. | .clear .. | .capture .. => false
  | _ => true

variable [ContextKey κ]

theorem frame_after (s : State κ) {op : Operation κ} (framed : op.framed = true) :
    s.Frame (s.after op) := by
  have here : s.Frame s := .refl s
  cases op with
  | facade | recorder | log | emit | clear | capture => cases framed
  | background into => exact here.keepContext into _
  | foreign into => exact here.keepLogger into _
  | withValue source into key item | withHidden source into key item
  | withValues source into items => exact .elim _ fun _ => here.keepContext into _
  | bind source into logger => exact .elim _ fun _ => .elim _ fun _ => here.keepContext into _
  | recorderEntry recorder into => exact .elim _ fun _ => here.keepLogger into _
  | wrapper source into | clone source into => exact .elim _ fun _ => here.keepLogger into _
  | facadeEntry into target => exact here.enriched into (Entry.steady_create _ _)
  | plainEntry into => exact here.enriched into (Entry.steady_create _ _)
  | entryOn source into => exact .elim _ fun k => here.enriched into (Entry.steady_onSink k _)
  | withPairs source into pairs =>
    exact .elim _ fun e => here.enriched into (e.steady_withFields _ _)
  | withFields source into fields =>
    exact .elim _ fun e => here.enriched into (e.steady_withFields _ _)
  | withError source into text =>
    exact .elim _ fun l => here.enriched into (l.steady_withError text _)
  | holder into source =>
    cases source with
    | none =>
      have made : Steady s.program (Holder.standard.run s.program).2 :=
        Entry.steady_create (.facade rootTarget) s.program
      exact (State.Frame.acted s made).keepHolder (.own into) _
    | some entry => exact .elim _ fun _ => here.keepHolder (.own into) _
  | inspectHolder holder => exact .reach s holder
  | rejected holder => exact .reach s holder
  | set holder logger =>
    refine .elim _ fun l => .onHolder s holder fun t h reached => ?_
    exact (reached.trans (.acted t (h.steady_set l t.program))).keepHolder holder _
  | get holder into =>
    change s.Frame (s.onHolder holder fun t h => t.keepLogger into (.entry h.slot))
    exact .onHolder s holder fun _ _ reached => reached.keepLogger into _
  | bound context into => exact .elim _ fun _ => .elim _ fun _ => here.keepLogger into _
  | resolve holder context into =>
    exact .elim _ fun _ => .onHolder s holder fun _ _ reached => reached.keepLogger into _
  | logger holder context into pairs keys =>
    exact .elim _ fun ctx => .onHolder s holder fun t h reached =>
      reached.enriched into ((h.resolve ctx).steady_withFields _ t.program)
  | value | valueJson | contains | inspectContext | compare | inspectEntry | enabled | records |
    messages | last | hasMessage | assertMessage => exact here

theorem nextId_after (s : State κ) (op : Operation κ) :
    s.program.nextId ≤ (s.after op).program.nextId := by
  cases framed : op.framed with
  | true => exact (frame_after s framed).program.nextId
  | false =>
    cases op with
    | facade f => exact Nat.le_refl _
    | recorder into least => exact Nat.le_add_right _ 2
    | log | emit | clear | capture => exact (advances_after_of_quiet s rfl).program.nextId
    | _ => cases framed

theorem facade_after (s : State κ) {op : Operation κ} (other : ∀ f, op ≠ .facade f) :
    (s.after op).program.facade = s.program.facade := by
  cases framed : op.framed with
  | true => exact (frame_after s framed).program.facade
  | false =>
    cases op with
    | facade f => exact absurd rfl (other f)
    | recorder into least => rfl
    | log | emit | clear | capture => exact (advances_after_of_quiet s rfl).program.facade
    | _ => cases framed

theorem recorders_after (s : State κ) {op : Operation κ}
    (other : ∀ into least, op ≠ .recorder into least) :
    (s.after op).registers.recorders = s.registers.recorders := by
  cases framed : op.framed with
  | true => exact (frame_after s framed).recorders
  | false =>
    cases op with
    | facade f => rfl
    | recorder into least => exact absurd rfl (other into least)
    | log | emit | clear | capture =>
      exact congrArg Registers.recorders (advances_after_of_quiet s rfl).registers
    | _ => cases framed

end Session

end ScopedLog
