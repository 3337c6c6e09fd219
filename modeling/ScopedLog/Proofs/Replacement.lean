import ScopedLog.Key.Kinds
import ScopedLog.Proofs.Records
import ScopedLog.Proofs.Session.Offers
import Mathlib.Algebra.Group.Nat.Defs
set_option autoImplicit false

namespace ScopedLog.Session

variable {κ : Type}

def result {α : Type} (w : Work κ α) (s : State κ) : Except Halt α :=
  (w.run.run s).1

theorem result_withNamed {α : Type} (map : Registers κ → NameMap α) {name : String} {a : α}
    (go : α → Work κ Answer) {s : State κ} (found : (map s.registers).get? name = some a) :
    result (withNamed map name go) s = result (go a) s := by
  unfold result
  rw [run_withNamed, found]
  rfl

theorem result_usingHolder {name : HolderName} {h : Holder} (go : Holder → Work κ Answer)
    {s : State κ} (there : (s.reach name).holder? name = some h) :
    result (usingHolder name go) s = result (go h) (s.reach name) := by
  cases name with
  | shared =>
    rw [holder?_reach_shared] at there
    cases there
    rfl
  | own name => exact result_withNamed (·.holders) go there

theorem result_set {name : HolderName} (h : Holder) (l : Logger) {s : State κ}
    (earlier : name = .shared → s.earlier = 0) :
    result (do
      let h ← act (h.set l)
      putHolder name h
      return Answer.replaced l.asEntry.isSome (← rejections name h)) s =
      .ok (.replaced l.asEntry.isSome (h.offer l).rejected) := by
  rw [← h.run_set_fst l s.program]
  cases name with
  | own into => rfl
  | shared =>
    change Except.ok (Answer.replaced _ (((h.set l).run s.program).1.rejected - s.earlier)) = _
    rw [earlier rfl, UInt64.sub_zero]

theorem result_rejections {name : HolderName} (h : Holder) {s : State κ}
    (earlier : name = .shared → s.earlier = 0) :
    result (do return Answer.count (← rejections name h)) s = .ok (.count h.rejected) := by
  cases name with
  | own into => rfl
  | shared =>
    change Except.ok (Answer.count (h.rejected - s.earlier)) = _
    rw [earlier rfl, UInt64.sub_zero]

theorem earlier_reach {name : HolderName} {s : State κ} (earlier : name = .shared → s.earlier = 0) :
    name = .shared → (s.reach name).earlier = 0 := by
  cases name with
  | shared => exact earlier
  | own name => exact earlier

variable [ContextKey κ]

theorem outcome_of_result {s : State κ} {op : Operation κ} {a : Answer}
    (h : result (perform op) s = .ok a) : (Moment.of s op).report.outcome = .answered a := by
  change (step s op).1.outcome = _
  unfold result at h
  rw [outcome_step, h]
  rfl

section Asking

variable {name : HolderName} {s : State κ} {h : Holder}

theorem outcome_set {logger : String} {l : Logger}
    (found : s.registers.loggers.get? logger = some l)
    (there : (s.reach name).holder? name = some h) (earlier : name = .shared → s.earlier = 0) :
    (Moment.of s (.set name logger)).report.outcome =
      .answered (.replaced l.asEntry.isSome (h.offer l).rejected) := by
  apply outcome_of_result
  refine (result_withNamed (·.loggers) _ found).trans ?_
  rw [result_usingHolder _ there]
  exact result_set h l (earlier_reach earlier)

theorem outcome_get {into : String} (there : (s.reach name).holder? name = some h) :
    (Moment.of s (.get name into)).report.outcome = .answered (.fields h.slot.fields) := by
  apply outcome_of_result
  exact result_usingHolder _ there

theorem outcome_rejected (there : (s.reach name).holder? name = some h)
    (earlier : name = .shared → s.earlier = 0) :
    (Moment.of s (.rejected name)).report.outcome = .answered (.count h.rejected) := by
  apply outcome_of_result
  refine (result_usingHolder _ there).trans ?_
  exact result_rejections h (earlier_reach earlier)

def Moment.warnings (m : Moment κ) : List FacadeRecord :=
  m.report.events.filterMap (Event.recordOn? defaultTarget)

theorem warnings_eq_told (s : State κ) (op : Operation κ) :
    (Moment.of s op).warnings = (s.told op).filterMap (Event.recordOn? defaultTarget) := by
  have setUp := s.program.recordOn?_setUpEvents (by decide : rootTarget ≠ defaultTarget)
  rw [Moment.warnings, report_events, List.filterMap_append]
  split
  · rw [setUp, List.nil_append]
  · rfl

theorem warnings_set {logger : String} {l : Logger}
    (found : s.registers.loggers.get? logger = some l)
    (there : (s.reach name).holder? name = some h) :
    (Moment.of s (.set name logger)).warnings =
      if h.warnsAbout l && s.program.facade.admits .warn then [Holder.warning] else [] := by
  have told : s.told (.set name logger) = h.tells s.program l := by
    simp only [State.told, found, there, Option.elim_some]
  rw [warnings_eq_told, told, Holder.tells]
  split <;> rfl

end Asking

def Moment.rejects (name : HolderName) (m : Moment κ) : Bool :=
  (m.offer? name).any fun l => l.asEntry.isNone

def turnedDown (name : HolderName) (ms : List (Moment κ)) : Nat :=
  ms.countP (Moment.rejects name)

def standing (name : HolderName) (seed : Entry) (ms : List (Moment κ)) : Entry :=
  ((offers name ms).filterMap Logger.asEntry).getLast?.getD seed

/-- Neither logs to a target of the caller's nor replaces another default logger. -/
def Operation.concerns (name : HolderName) : Operation κ → Bool
  | .log .. | .emit .. => false
  | .set changed _ => changed = name
  | _ => true

/-- What is seen of a default logger at a moment, after what happened in the past. -/
structure Conduct (name : HolderName) (seed : Entry) (past : List (Moment κ)) (m : Moment κ) :
    Prop where
  state : ∀ h, m.before.holder? name = some h →
    h.slot.sameAs (standing name seed past) = true ∧
      h.rejected = UInt64.ofNat (turnedDown name past)
  set : ∀ logger l, m.operation = .set name logger →
    m.before.registers.loggers.get? logger = some l →
    m.report.outcome = .answered (.replaced l.asEntry.isSome
      (UInt64.ofNat (turnedDown name (past ++ [m]))))
  get : ∀ into, m.operation = .get name into →
    ∃ e, (m.before.after m.operation).entryNamed into = some e ∧
      e.sameAs (standing name seed past) = true ∧ m.report.outcome = .answered (.fields e.fields)
  rejected : m.operation = .rejected name →
    m.report.outcome = .answered (.count (UInt64.ofNat (turnedDown name past)))
  warnings : m.operation.concerns name = true →
    m.warnings =
      if m.rejects name ∧ UInt64.ofNat (turnedDown name past) = 0 ∧
        m.before.program.facade.admits .warn then [Holder.warning] else []

section Telling

variable {name : HolderName} {seed : Entry} {past : List (Moment κ)} {s : State κ}

omit [ContextKey κ] in
theorem countP_offers (name : HolderName) (ms : List (Moment κ)) :
    (offers name ms).countP (fun l => l.asEntry.isNone) = turnedDown name ms := by
  rw [offers, List.countP_filterMap, turnedDown]
  congr 1
  funext m
  unfold Moment.rejects
  cases m.offer? name <;> rfl

omit [ContextKey κ] in
theorem foldl_offers (name : HolderName) (seed : Entry) (past : List (Moment κ)) :
    (offers name past).foldl Holder.offer (Holder.of seed) =
      ⟨standing name seed past, UInt64.ofNat (turnedDown name past)⟩ := by
  have slot : ((offers name past).foldl Holder.offer (Holder.of seed)).slot =
      standing name seed past := (Holder.of seed).slot_foldl_offer (offers name past)
  have rejected := (Holder.of seed).rejected_foldl_offer (offers name past)
  rw [countP_offers] at rejected
  have start : (Holder.of seed).rejected = 0 := rfl
  rw [start, UInt64.zero_add] at rejected
  rw [← slot, ← rejected]

omit [ContextKey κ] in
theorem asked_of_reflects (reflects : State.Reflects name seed past s) :
    ∃ h, (s.reach name).holder? name = some h ∧
      h.rejected = UInt64.ofNat (turnedDown name past) := by
  rcases reflects with here | ⟨rfl, unset, nothing⟩
  · refine ⟨_, (State.Advances.reach s name).holder? here, ?_⟩
    rw [foldl_offers]
  · refine ⟨Holder.of s.program.seedEntry, ?_, ?_⟩
    · rw [holder?_reach_shared, Program.run_touch, unset]
    · rw [← countP_offers, nothing]
      rfl

theorem turnedDown_append {logger : String} {l : Logger}
    (found : s.registers.loggers.get? logger = some l) :
    turnedDown name (past ++ [.of s (.set name logger)]) =
      turnedDown name past + if l.asEntry.isNone then 1 else 0 := by
  have offered : (Moment.of s (.set name logger)).offer? name = some l :=
    (if_pos rfl).trans found
  rw [turnedDown, List.countP_append, List.countP_singleton, Moment.rejects, offered]
  rfl

theorem outcome_set_of_reflects (reflects : State.Reflects name seed past s)
    (earlier : name = .shared → s.earlier = 0) {logger : String} {l : Logger}
    (found : s.registers.loggers.get? logger = some l) :
    (Moment.of s (.set name logger)).report.outcome =
      .answered (.replaced l.asEntry.isSome
        (UInt64.ofNat (turnedDown name (past ++ [.of s (.set name logger)])))) := by
  obtain ⟨h, there, rejected⟩ := asked_of_reflects reflects
  have counted : (h.offer l).rejected =
      UInt64.ofNat (turnedDown name past + if l.asEntry.isNone then 1 else 0) := by
    rw [Holder.offer]
    cases l.asEntry with
    | none =>
      change h.rejected + 1 = UInt64.ofNat (turnedDown name past + 1)
      rw [rejected, UInt64.ofNat_add]
      rfl
    | some e => exact rejected
  rw [outcome_set found there earlier, turnedDown_append found, counted]

theorem get_of_reflects {into : String} (before : State.Reflects name seed past s)
    (after : State.Reflects name seed (past ++ [.of s (.get name into)])
      (s.after (.get name into))) :
    ∃ e, (s.after (.get name into)).entryNamed into = some e ∧
      e.sameAs (standing name seed past) = true ∧
      (Moment.of s (.get name into)).report.outcome = .answered (.fields e.fields) := by
  obtain ⟨h, there, -⟩ := asked_of_reflects before
  have left : s.after (.get name into) = (s.reach name).keepLogger into (.entry h.slot) := by
    simp only [State.after, State.onHolder, there, Option.elim_some]
  have kept : (s.after (.get name into)).holder? name = some h := by
    rw [left]
    cases name <;> exact there
  have slot : h.slot = standing name seed past := by
    rcases after with here | ⟨rfl, unset, -⟩
    · have nothing : offers name [Moment.of s (.get name into)] = [] := rfl
      rw [offers_append, nothing, List.append_nil, foldl_offers, kept] at here
      exact congrArg Holder.slot (Option.some.inj here)
    · cases unset.symm.trans kept
  refine ⟨h.slot, ?_, ?_, outcome_get there⟩
  · rw [left]
    unfold State.entryNamed State.keepLogger
    rw [NameMap.get?_insert, if_pos rfl]
  · rw [slot]
    exact Entry.equivalence_sameAs.refl _

theorem warnings_of_reflects {op : Operation κ} (reflects : State.Reflects name seed past s)
    (concerns : op.concerns name = true) :
    (Moment.of s op).warnings =
      if (Moment.of s op).rejects name ∧ UInt64.ofNat (turnedDown name past) = 0 ∧
        s.program.facade.admits .warn then [Holder.warning] else [] := by
  cases offered : (Moment.of s op).offer? name with
  | some l =>
    obtain ⟨logger, rfl, found⟩ := offer?_eq_some offered
    obtain ⟨h, there, rejected⟩ := asked_of_reflects reflects
    rw [warnings_set found there, Moment.rejects, offered, Option.any_some, Holder.warnsAbout,
      rejected]
    simp [and_assoc]
  | none =>
    have rejects : (Moment.of s op).rejects name = false := by
      rw [Moment.rejects, offered]
      rfl
    have told : s.told op = [] := by
      cases op with
      | log | emit => cases concerns
      | set changed logger =>
        have here : changed = name := by simpa [Operation.concerns] using concerns
        have missing : s.registers.loggers.get? logger = none := (if_pos here).symm.trans offered
        exact (touches_set_missing missing).1
      | _ => rfl
    rw [if_neg (by simp [rejects]), warnings_eq_told, told]
    rfl

theorem conduct_of_reflects {op : Operation κ} (earlier : name = .shared → s.earlier = 0)
    (before : State.Reflects name seed past s)
    (after : State.Reflects name seed (past ++ [.of s op]) (s.after op)) :
    Conduct name seed past (.of s op) where
  state h here := by
    rcases before with held | ⟨rfl, unset, -⟩
    · rw [foldl_offers] at held
      cases here.symm.trans held
      exact ⟨Entry.equivalence_sameAs.refl _, rfl⟩
    · cases unset.symm.trans here
  set logger l same found := by
    obtain rfl : op = .set name logger := same
    exact outcome_set_of_reflects before earlier found
  get into same := by
    obtain rfl : op = .get name into := same
    exact get_of_reflects before after
  rejected same := by
    obtain rfl : op = .rejected name := same
    obtain ⟨h, there, rejected⟩ := asked_of_reflects before
    rw [outcome_rejected there earlier, rejected]
  warnings concerns := warnings_of_reflects before concerns

end Telling

omit [ContextKey κ] in
theorem concerns_of_rejects {name : HolderName} {m : Moment κ} (rejects : m.rejects name = true) :
    m.operation.concerns name = true := by
  obtain ⟨s, op, report⟩ := m
  cases op with
  | log | emit => cases rejects
  | set changed logger =>
    by_cases here : changed = name
    · simp [Operation.concerns, here]
    · simp [Moment.rejects, Moment.offer?, here] at rejects
  | _ => rfl

/-- Of the moments that follow on a past, only the first to turn a logger down may be told of, and
    only if none was turned down in the past. -/
theorem flatMap_warnings {name : HolderName} {seed : Entry} (past : List (Moment κ))
    {ms : List (Moment κ)}
    (conduct : ∀ before m future, ms = before ++ m :: future →
      Conduct name seed (past ++ before) m)
    (few : turnedDown name (past ++ ms) ≤ 2 ^ 64) :
    (ms.filter fun m => m.operation.concerns name).flatMap Moment.warnings =
      if turnedDown name past = 0 then
        (ms.find? (Moment.rejects name)).toList.flatMap fun m =>
          if m.before.program.facade.admits .warn then [Holder.warning] else []
      else [] := by
  induction ms generalizing past with
  | nil => simp
  | cons m rest ih =>
    have told := (conduct [] m rest rfl).warnings
    rw [List.append_nil] at told
    have later := ih (past ++ [m])
      (fun before x future split => by
        rw [List.append_assoc]
        exact conduct (m :: before) x future (congrArg (m :: ·) split))
      (by rwa [List.append_assoc])
    have counted : turnedDown name (past ++ [m]) =
        turnedDown name past + if m.rejects name then 1 else 0 := by
      rw [turnedDown, List.countP_append, List.countP_singleton]
      rfl
    cases rejects : m.rejects name with
    | false =>
      have same : turnedDown name (past ++ [m]) = turnedDown name past := by
        rw [counted, rejects]
        rfl
      rw [same] at later
      rw [rejects] at told
      rw [List.find?_cons_of_neg (by simp [rejects]), ← later]
      cases concerns : m.operation.concerns name with
      | false => rw [List.filter_cons_of_neg (by simp [concerns])]
      | true =>
        rw [List.filter_cons_of_pos (by exact concerns), List.flatMap_cons, told concerns]
        rfl
    | true =>
      have concerns := concerns_of_rejects rejects
      have more : turnedDown name (past ++ [m]) = turnedDown name past + 1 := by
        rw [counted, rejects]
        rfl
      have below : turnedDown name past < 2 ^ 64 := by
        rw [List.append_cons, turnedDown, List.countP_append] at few
        change turnedDown name (past ++ [m]) + _ ≤ _ at few
        omega
      have first : UInt64.ofNat (turnedDown name past) = 0 ↔ turnedDown name past = 0 := by
        rw [UInt64.ofNat_eq_iff_mod_eq_toNat, Nat.mod_eq_of_lt below]
        rfl
      rw [more, if_neg (Nat.succ_ne_zero _)] at later
      rw [rejects] at told
      rw [List.filter_cons_of_pos (by exact concerns), List.flatMap_cons, later, List.append_nil,
        told concerns, List.find?_cons_of_pos rejects]
      by_cases none : turnedDown name past = 0
      · simp [none]
      · simp [none, first]

/-- A new default logger stands where the offers made to it have put it, and tells of them as the
    first that was turned down allows. -/
theorem moments_conduct {name : HolderName} {s : State κ} {ops : List (Operation κ)}
    (new : ∃ seed, s.Unoffered name seed) (makes : ∀ op ∈ ops, op.makes name = false) :
    ∃ seed, s.Unoffered name seed ∧
      (∀ past m future, moments s ops = past ++ m :: future → Conduct name seed past m) ∧
      (turnedDown name (moments s ops) ≤ 2 ^ 64 →
        ((moments s ops).filter fun m => m.operation.concerns name).flatMap Moment.warnings =
          ((moments s ops).find? (Moment.rejects name)).toList.flatMap fun m =>
            if m.before.program.facade.admits .warn then [Holder.warning] else []) := by
  obtain ⟨seed, new⟩ := new
  obtain ⟨seed, new, reflects⟩ := reflects_run new makes
  have conduct (past : List (Moment κ)) (m : Moment κ) (future : List (Moment κ))
      (split : moments s ops = past ++ m :: future) : Conduct name seed past m := by
    obtain ⟨first, rest, rfl, rfl, start, extended, ended⟩ := moments_split split
    have before := reflects first (List.prefix_append _ _)
    have after := reflects (first ++ [m.operation]) ⟨rest, List.append_cons .. ▸ rfl⟩
    rw [extended, ended] at after
    rw [start] at after ⊢
    refine conduct_of_reflects (fun same => ?_) before after
    exact (fixed_run s first).2.trans (new.earlier same)
  refine ⟨seed, new, conduct, fun few => ?_⟩
  exact flatMap_warnings [] conduct few

theorem rejected_twice_told_once :
    let ops : List (Operation Key) := [.foreign "f", .set .shared "f", .set .shared "f"]
    turnedDown .shared (moments (.fresh Environment.empty) ops) = 2 ∧
      ((moments (.fresh Environment.empty) ops).filter fun m =>
        m.operation.concerns .shared).flatMap Moment.warnings = [Holder.warning] := by
  intro ops
  have new : ∃ seed, (State.fresh Environment.empty : State Key).Unoffered .shared seed :=
    ⟨_, fun _ => rfl, .inr ⟨rfl, rfl, 0, rfl⟩⟩
  have twice : turnedDown .shared (moments (.fresh Environment.empty) ops) = 2 := rfl
  have makes : ∀ op ∈ ops, op.makes .shared = false := by decide
  obtain ⟨seed, -, -, told⟩ := moments_conduct new makes
  exact ⟨twice, told (by rw [twice]; decide)⟩

end ScopedLog.Session
