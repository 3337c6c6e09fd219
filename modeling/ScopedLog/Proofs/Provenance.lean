import ScopedLog.Proofs.Session.Moments
set_option autoImplicit false

/-!
Where the live entries of a session come from. An entry comes into being when it is created or when
an enrichment adds a field to another; everything else that yields an entry hands on one that was
there. `Origins` keeps beside a session, for each place that holds an entry, the operation that
brought it into being. It looks at the names that operations read and write and at whether an
enrichment adds anything, and never at the identities that the program gives out.
-/
namespace ScopedLog

variable {κ : Type}

def Frame.exposed? (f : Frame κ) : Option (Option Entry) :=
  match f.key with
  | .binding => some (f.content.logger?.bind Logger.asEntry)
  | .caller _ => none

namespace Context

def bindings (ctx : Context κ) : List (Option Entry) :=
  ctx.frames.filterMap Frame.exposed?

theorem bindings_withValue (ctx : Context κ) (key : κ) (item : Item) :
    (ctx.withValue key item).bindings = ctx.bindings := rfl

theorem bindings_withHidden (ctx : Context κ) (key : κ) (item : Item) :
    (ctx.withHidden key item).bindings = ctx.bindings := rfl

theorem bindings_withValues (ctx : Context κ) (items : List (κ × Item)) :
    (items.foldl (fun ctx e => ctx.withValue e.1 e.2) ctx).bindings = ctx.bindings := by
  induction items generalizing ctx with
  | nil => rfl
  | cons e rest ih => exact (ih (ctx.withValue e.1 e.2)).trans (bindings_withValue ctx e.1 e.2)

theorem bound_eq_head [ContextKey κ] (ctx : Context κ) : ctx.bound = ctx.bindings.head?.join := by
  obtain ⟨frames⟩ := ctx
  induction frames with
  | nil => rfl
  | cons f older ih =>
    obtain ⟨key | _, content⟩ := f
    · exact ih
    · rfl

end Context

namespace Session

/-- What brings an entry into being: the set-up of the default logger of the program, or an
    operation, by its number in the session. -/
inductive Birth where
  | seed
  | made (step : Nat)
deriving DecidableEq

inductive Place where
  | logger (name : String)
  | recorder (name : String)
  | holder (name : HolderName)
  /-- Bound in a context; `depth` counts the bindings above. -/
  | binding (context : String) (depth : Nat)

def Place.entryIn (s : State κ) : Place → Option Entry
  | logger name => (s.registers.loggers.get? name).bind Logger.asEntry
  | recorder name => (s.registers.recorders.get? name).map (·.entry)
  | holder name => (s.holder? name).map (·.slot)
  | binding context depth =>
    ((s.registers.contexts.get? context).bind (·.bindings[depth]?)).join

structure Origins where
  count : Nat
  loggers : String → Option Birth
  recorders : String → Option Birth
  holders : String → Option Birth
  shared : Option Birth
  bindings : String → List (Option Birth)

def Place.birth? (o : Origins) : Place → Option Birth
  | logger name => o.loggers name
  | recorder name => o.recorders name
  | holder .shared => o.shared
  | holder (.own name) => o.holders name
  | binding context depth => (o.bindings context)[depth]?.join

namespace Origins

def put {α : Type} (f : String → α) (into : String) (a : α) : String → α :=
  fun name => if name = into then a else f name

def putLogger (o : Origins) (into : String) (b : Option Birth) : Origins :=
  { o with loggers := put o.loggers into b }

def putRecorder (o : Origins) (into : String) (b : Option Birth) : Origins :=
  { o with recorders := put o.recorders into b }

def putBindings (o : Origins) (into : String) (bs : List (Option Birth)) : Origins :=
  { o with bindings := put o.bindings into bs }

def putHolder (o : Origins) : HolderName → Option Birth → Origins
  | .shared, b => { o with shared := b }
  | .own name, b => { o with holders := put o.holders name b }

def start (s : State κ) : Origins where
  count := 0
  loggers := fun _ => none
  recorders := fun _ => none
  holders := fun _ => none
  shared := s.program.shared.map fun _ => .seed
  bindings := fun _ => []

def touched (o : Origins) (p : Program) : Origins :=
  { o with shared := o.shared.or (p.shared.map fun _ => .seed) }

def here (o : Origins) : Option Birth :=
  some (.made o.count)

def enriched (o : Origins) (base : Option Birth) (addsNothing : Bool) : Option Birth :=
  if addsNothing then base else o.here

def bound (o : Origins) (context : String) : Option Birth :=
  (o.bindings context).head?.join

def resolved (o : Origins) (holder : HolderName) (context : String) : Option Birth :=
  (o.bound context).or (Place.birth? o (.holder holder))

end Origins

def State.hasHolder (s : State κ) : HolderName → Bool
  | .shared => true
  | .own name => (s.registers.holders.get? name).isSome

def givesNothing (pairs : List (String × Value)) : Bool :=
  pairs.all fun p => p.2.toJson?.isNone

variable [ContextKey κ]

def showsNothing (ctx : Context κ) (keys : List κ) : Bool :=
  keys.all fun k => (ctx.valueJson k).isNone

def Operation.creates (s : State κ) : Operation κ → Bool
  | .recorder .. | .facadeEntry .. | .plainEntry .. | .entryOn .. => true
  | .withError .. | .holder _ none => true
  | .withPairs _ _ pairs => !givesNothing pairs
  | .withFields _ _ fields => !fields.isEmpty
  | .logger _ context _ pairs keys =>
    (s.registers.contexts.get? context).any fun ctx =>
      !(showsNothing ctx keys && givesNothing pairs)
  | _ => false

namespace Origins

/-- What an operation creates and what it hands on. It does neither where a name is missing. -/
def carry (o : Origins) (s : State κ) : Operation κ → Origins
  | .background into => o.putBindings into []
  | .withValue source into _ _ | .withHidden source into _ _ | .withValues source into _ =>
    (s.registers.contexts.get? source).elim o fun _ => o.putBindings into (o.bindings source)
  | .bind source into logger =>
    (s.registers.contexts.get? source).elim o fun _ =>
      (s.registers.loggers.get? logger).elim o fun _ =>
        o.putBindings into (o.loggers logger :: o.bindings source)
  | .recorder into _ => (o.putRecorder into o.here).putLogger into o.here
  | .recorderEntry recorder into =>
    (s.registers.recorders.get? recorder).elim o fun _ => o.putLogger into (o.recorders recorder)
  | .facadeEntry into _ | .plainEntry into => o.putLogger into o.here
  | .entryOn source into => (s.sinkNamed source).elim o fun _ => o.putLogger into o.here
  | .foreign into => o.putLogger into none
  | .wrapper source into | .clone source into =>
    (s.entryNamed source).elim o fun _ => o.putLogger into (o.loggers source)
  | .withPairs source into pairs =>
    (s.entryNamed source).elim o fun _ =>
      o.putLogger into (o.enriched (o.loggers source) (givesNothing pairs))
  | .withFields source into fields =>
    (s.entryNamed source).elim o fun _ =>
      o.putLogger into (o.enriched (o.loggers source) fields.isEmpty)
  | .withError source into _ =>
    (s.registers.loggers.get? source).elim o fun _ => o.putLogger into o.here
  | .holder into none => o.putHolder (.own into) o.here
  | .holder into (some entry) =>
    (s.entryNamed entry).elim o fun _ => o.putHolder (.own into) (o.loggers entry)
  | .set holder logger =>
    (o.loggers logger).elim o fun b => if s.hasHolder holder then o.putHolder holder (some b) else o
  | .get holder into =>
    if s.hasHolder holder then o.putLogger into (Place.birth? o (.holder holder)) else o
  | .bound context into => (o.bound context).elim o fun b => o.putLogger into (some b)
  | .resolve holder context into =>
    (s.registers.contexts.get? context).elim o fun _ =>
      if s.hasHolder holder then o.putLogger into (o.resolved holder context) else o
  | .logger holder context into pairs keys =>
    (s.registers.contexts.get? context).elim o fun ctx =>
      if s.hasHolder holder then
        o.putLogger into
          (o.enriched (o.resolved holder context) (showsNothing ctx keys && givesNothing pairs))
      else o
  | _ => o

def next (o : Origins) (s : State κ) (op : Operation κ) : Origins :=
  { (o.touched (s.after op).program).carry s op with count := o.count + 1 }

def along (s : State κ) (ms : List (Moment κ)) : Origins :=
  ms.foldl (fun o m => o.next m.before m.operation) (start s)

omit [ContextKey κ]

def Knows (o : Origins) (b : Birth) : Prop :=
  ∃ P : Place, P.birth? o = some b

variable {o : Origins} {b : Birth}

theorem knows_touched {p : Program} (h : (o.touched p).Knows b) : o.Knows b ∨ b = .seed := by
  obtain ⟨P, h⟩ := h
  rcases P with name | name | (_ | name) | ⟨context, depth⟩
  · exact .inl ⟨.logger name, h⟩
  · exact .inl ⟨.recorder name, h⟩
  · change o.shared.or (p.shared.map fun _ => .seed) = some b at h
    rcases Option.or_eq_some_iff.1 h with old | ⟨_, set⟩
    · exact .inl ⟨.holder .shared, old⟩
    · obtain ⟨_, _, same⟩ := Option.map_eq_some_iff.1 set
      exact .inr same.symm
  · exact .inl ⟨.holder (.own name), h⟩
  · exact .inl ⟨.binding context depth, h⟩

theorem knows_putLogger {into : String} {c : Option Birth} (h : (o.putLogger into c).Knows b) :
    o.Knows b ∨ c = some b := by
  obtain ⟨P, h⟩ := h
  rcases P with name | name | (_ | name) | ⟨context, depth⟩
  · change (if name = into then c else o.loggers name) = some b at h
    split at h
    · exact .inr h
    · exact .inl ⟨.logger name, h⟩
  · exact .inl ⟨.recorder name, h⟩
  · exact .inl ⟨.holder .shared, h⟩
  · exact .inl ⟨.holder (.own name), h⟩
  · exact .inl ⟨.binding context depth, h⟩

theorem knows_putRecorder {into : String} {c : Option Birth} (h : (o.putRecorder into c).Knows b) :
    o.Knows b ∨ c = some b := by
  obtain ⟨P, h⟩ := h
  rcases P with name | name | (_ | name) | ⟨context, depth⟩
  · exact .inl ⟨.logger name, h⟩
  · change (if name = into then c else o.recorders name) = some b at h
    split at h
    · exact .inr h
    · exact .inl ⟨.recorder name, h⟩
  · exact .inl ⟨.holder .shared, h⟩
  · exact .inl ⟨.holder (.own name), h⟩
  · exact .inl ⟨.binding context depth, h⟩

theorem knows_putHolder {into : HolderName} {c : Option Birth} (h : (o.putHolder into c).Knows b) :
    o.Knows b ∨ c = some b := by
  obtain ⟨P, h⟩ := h
  cases into with
  | shared =>
    rcases P with name | name | (_ | name) | ⟨context, depth⟩
    · exact .inl ⟨.logger name, h⟩
    · exact .inl ⟨.recorder name, h⟩
    · exact .inr h
    · exact .inl ⟨.holder (.own name), h⟩
    · exact .inl ⟨.binding context depth, h⟩
  | own into =>
    rcases P with name | name | (_ | name) | ⟨context, depth⟩
    · exact .inl ⟨.logger name, h⟩
    · exact .inl ⟨.recorder name, h⟩
    · exact .inl ⟨.holder .shared, h⟩
    · change (if name = into then c else o.holders name) = some b at h
      split at h
      · exact .inr h
      · exact .inl ⟨.holder (.own name), h⟩
    · exact .inl ⟨.binding context depth, h⟩

theorem knows_putBindings {into : String} {bs : List (Option Birth)}
    (h : (o.putBindings into bs).Knows b) : o.Knows b ∨ some b ∈ bs := by
  obtain ⟨P, h⟩ := h
  rcases P with name | name | (_ | name) | ⟨context, depth⟩
  · exact .inl ⟨.logger name, h⟩
  · exact .inl ⟨.recorder name, h⟩
  · exact .inl ⟨.holder .shared, h⟩
  · exact .inl ⟨.holder (.own name), h⟩
  · change (if context = into then bs else o.bindings context)[depth]?.join = some b at h
    split at h
    · exact .inr (List.mem_of_getElem? (Option.join_eq_some_iff.1 h))
    · exact .inl ⟨.binding context depth, h⟩

theorem knows_of_mem_bindings {context : String} (h : some b ∈ o.bindings context) :
    o.Knows b := by
  obtain ⟨depth, here⟩ := List.getElem?_of_mem h
  exact ⟨.binding context depth, Option.join_eq_some_iff.2 here⟩

theorem knows_bound {context : String} (h : o.bound context = some b) : o.Knows b :=
  knows_of_mem_bindings (List.mem_of_mem_head? (Option.join_eq_some_iff.1 h))

theorem knows_resolved {holder : HolderName} {context : String}
    (h : o.resolved holder context = some b) : o.Knows b := by
  rcases Option.or_eq_some_iff.1 h with bound | ⟨_, slot⟩
  · exact knows_bound bound
  · exact ⟨.holder holder, slot⟩

theorem knows_elim {α : Type} {found : Option α} {next : α → Origins} {Creates : Prop}
    (h : (found.elim o next).Knows b)
    (go : ∀ a, found = some a → (next a).Knows b → o.Knows b ∨ Creates) :
    o.Knows b ∨ Creates := by
  cases found with
  | none => exact .inl h
  | some a => exact go a rfl h

/-- After an operation a place holds what some place held before, or what the operation created. -/
theorem knows_carry [ContextKey κ] {s : State κ} {op : Operation κ} (h : (o.carry s op).Knows b) :
    o.Knows b ∨ b = .made o.count ∧ op.creates s = true := by
  -- What an operation writes is known already, or else the operation has made it.
  have handed {into : String} {P : Place} (h : (o.putLogger into (P.birth? o)).Knows b) :
      o.Knows b ∨ b = .made o.count ∧ op.creates s = true :=
    (knows_putLogger h).elim .inl fun same => .inl ⟨P, same⟩
  have made {into : String} (creates : op.creates s = true)
      (h : (o.putLogger into o.here).Knows b) :
      o.Knows b ∨ b = .made o.count ∧ op.creates s = true :=
    (knows_putLogger h).imp_right fun same => ⟨(Option.some.inj same).symm, creates⟩
  have enriched {into : String} {base : Option Birth} {addsNothing : Bool}
      (known : base = some b → o.Knows b) (creates : addsNothing = false → op.creates s = true)
      (h : (o.putLogger into (o.enriched base addsNothing)).Knows b) :
      o.Knows b ∨ b = .made o.count ∧ op.creates s = true := by
    unfold Origins.enriched at h
    split at h
    · exact .inl ((knows_putLogger h).elim id known)
    · rename_i adds
      exact made (creates (Bool.eq_false_iff.2 adds)) h
  have derived {source into : String} (h : (o.putBindings into (o.bindings source)).Knows b) :
      o.Knows b ∨ b = .made o.count ∧ op.creates s = true :=
    .inl ((knows_putBindings h).elim id knows_of_mem_bindings)
  cases op with
  | background into => exact .inl ((knows_putBindings h).elim id fun mem => by cases mem)
  | withValue source into key item | withHidden source into key item
  | withValues source into items => exact knows_elim h fun _ _ h => derived h
  | bind source into logger =>
    refine knows_elim h fun _ _ h => knows_elim h fun _ _ h => ?_
    rcases knows_putBindings h with known | mem
    · exact .inl known
    · rcases List.mem_cons.1 mem with newest | older
      · exact .inl ⟨.logger logger, newest.symm⟩
      · exact .inl (knows_of_mem_bindings older)
  | recorder into least =>
    rcases knows_putLogger h with h | same
    · rcases knows_putRecorder h with known | same
      · exact .inl known
      · exact .inr ⟨(Option.some.inj same).symm, rfl⟩
    · exact .inr ⟨(Option.some.inj same).symm, rfl⟩
  | recorderEntry recorder into =>
    exact knows_elim h fun _ _ h => handed (P := .recorder recorder) h
  | facadeEntry into target => exact made rfl h
  | plainEntry into => exact made rfl h
  | entryOn source into => exact knows_elim h fun _ _ h => made rfl h
  | foreign into => exact .inl ((knows_putLogger h).elim id fun same => by cases same)
  | wrapper source into | clone source into =>
    exact knows_elim h fun _ _ h => handed (P := .logger source) h
  | withPairs source into pairs =>
    refine knows_elim h fun _ _ h =>
      enriched (fun same => ⟨.logger source, same⟩) (fun adds => ?_) h
    simp [Operation.creates, adds]
  | withFields source into fields =>
    refine knows_elim h fun _ _ h =>
      enriched (fun same => ⟨.logger source, same⟩) (fun adds => ?_) h
    simp [Operation.creates, adds]
  | withError source into text => exact knows_elim h fun _ _ h => made rfl h
  | holder into source =>
    cases source with
    | none =>
      have put : (o.putHolder (.own into) o.here).Knows b := h
      exact (knows_putHolder put).imp_right fun same => ⟨(Option.some.inj same).symm, rfl⟩
    | some entry =>
      refine knows_elim h fun _ _ h => ?_
      exact .inl ((knows_putHolder h).elim id fun same => ⟨.logger entry, same⟩)
  | set holder logger =>
    refine knows_elim h fun c given h => ?_
    split at h
    · refine .inl ((knows_putHolder h).elim id fun same => ⟨.logger logger, ?_⟩)
      exact given.trans same
    · exact .inl h
  | get holder into =>
    simp only [carry] at h
    split at h
    · exact handed (P := .holder holder) h
    · exact .inl h
  | bound context into =>
    refine knows_elim h fun c bound h => ?_
    exact .inl ((knows_putLogger h).elim id fun same => knows_bound (bound.trans same))
  | resolve holder context into =>
    refine knows_elim h fun _ _ h => ?_
    split at h
    · exact .inl ((knows_putLogger h).elim id knows_resolved)
    · exact .inl h
  | logger holder context into pairs keys =>
    refine knows_elim h fun ctx found h => ?_
    split at h
    · refine enriched knows_resolved (fun adds => ?_) h
      change ((s.registers.contexts.get? context).any fun ctx =>
        !(showsNothing ctx keys && givesNothing pairs)) = true
      rw [found, Option.any_some, adds]
      rfl
    · exact .inl h
  | facade | value | valueJson | contains | inspectContext | compare | inspectEntry | log |
    enabled | emit | records | messages | last | hasMessage | assertMessage | clear | capture |
    inspectHolder | rejected => exact .inl h

theorem knows_start {s : State κ} (h : (start s).Knows b) : b = .seed := by
  obtain ⟨P, h⟩ := h
  rcases P with name | name | (_ | name) | ⟨context, depth⟩
  · cases h
  · cases h
  · obtain ⟨_, _, same⟩ := Option.map_eq_some_iff.1 h
    exact same.symm
  · cases h
  · cases h

theorem along_append [ContextKey κ] (s t : State κ) (past : List (Moment κ)) (op : Operation κ) :
    along s (past ++ [.of t op]) = (along s past).next t op :=
  List.foldl_append

theorem count_along [ContextKey κ] (s : State κ) (ms : List (Moment κ)) :
    (along s ms).count = ms.length := by
  suffices counted : ∀ o : Origins,
      (ms.foldl (fun o m => o.next m.before m.operation) o).count = o.count + ms.length by
    exact (counted (start s)).trans (Nat.zero_add _)
  induction ms with
  | nil => exact fun _ => rfl
  | cons m rest ih =>
    intro o
    rw [List.foldl_cons, ih, List.length_cons]
    change o.count + 1 + rest.length = _
    omega

theorem knows_next [ContextKey κ] {s : State κ} {op : Operation κ} (h : (o.next s op).Knows b) :
    o.Knows b ∨ b = .seed ∨ b = .made o.count ∧ op.creates s = true := by
  have carried : ((o.touched (s.after op).program).carry s op).Knows b := by
    obtain ⟨P, h⟩ := h
    rcases P with name | name | (_ | name) | ⟨context, depth⟩
    · exact ⟨.logger name, h⟩
    · exact ⟨.recorder name, h⟩
    · exact ⟨.holder .shared, h⟩
    · exact ⟨.holder (.own name), h⟩
    · exact ⟨.binding context depth, h⟩
  rcases knows_carry carried with known | made
  · exact (knows_touched known).imp_right .inl
  · exact .inr (.inr made)

theorem creates_of_knows [ContextKey κ] {s : State κ} {ops : List (Operation κ)} {i : Nat}
    (h : (along s (moments s ops)).Knows (.made i)) :
    ∃ m, (moments s ops)[i]? = some m ∧ m.operation.creates m.before = true := by
  suffices run : ∀ i, (along s (moments s ops)).Knows (.made i) →
      ∃ m, (moments s ops)[i]? = some m ∧ m.operation.creates m.before = true by
    exact run i h
  refine run_induction (motive := fun past _ => ∀ i, (along s past).Knows (.made i) →
    ∃ m, past[i]? = some m ∧ m.operation.creates m.before = true) ?_ ?_
  · intro i h
    cases knows_start h
  · intro past t op _ ih i h
    rw [along_append] at h
    rcases knows_next h with known | seed | ⟨made, creates⟩
    · obtain ⟨m, here, creates⟩ := ih i known
      obtain ⟨inside, _⟩ := List.getElem?_eq_some_iff.1 here
      exact ⟨m, (List.getElem?_append_left inside).trans here, creates⟩
    · cases seed
    · have last : i = past.length := (Birth.made.inj made).trans (count_along s past)
      refine ⟨.of t op, ?_, creates⟩
      rw [last, List.getElem?_concat_length]

end Origins

end Session

end ScopedLog
