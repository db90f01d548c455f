import Mathlib
import ReplicaWatch.Proofs.Reachable

/-! Alike: the same but for the keys of secrets. What a key may do to a command line is limited only if the key is not
an option of the command itself, so keys that are read as the option for a key are left out. -/
namespace ReplicaWatch

namespace Ledger

variable {κ α : Type}

/-- The same keys in the same order, and what is held at each is related. -/
def Alike (R : κ → α → α → Prop) (m n : Ledger κ α) : Prop :=
  List.Forall₂ (fun e f => e.1 = f.1 ∧ R e.1 e.2 f.2) m.entries n.entries

section
variable {R : κ → α → α → Prop} {m n : Ledger κ α}

lemma Alike.refl (h : ∀ k a, R k a a) (m : Ledger κ α) : m.Alike R m :=
  List.forall₂_same.2 fun e _ => ⟨rfl, h e.1 e.2⟩

lemma alike_empty : (∅ : Ledger κ α).Alike R ∅ := .nil

lemma Alike.keys_eq (h : m.Alike R n) : m.keys = n.keys := by
  unfold Alike at h
  unfold Ledger.keys
  generalize m.entries = es at h ⊢
  generalize n.entries = fs at h ⊢
  induction h with
  | nil => rfl
  | cons he _ ih => rw [List.map_cons, List.map_cons, he.1, ih]

variable [DecidableEq κ]

lemma Alike.get? (h : m.Alike R n) (k : κ) : Option.Rel (R k) (m.get? k) (n.get? k) := by
  unfold Alike at h
  unfold Ledger.get?
  generalize m.entries = es at h ⊢
  generalize n.entries = fs at h ⊢
  induction h with
  | nil => exact .none
  | @cons e f _ _ he _ ih =>
    obtain ⟨j, a⟩ := e
    obtain ⟨i, b⟩ := f
    obtain ⟨rfl, hab⟩ := he
    simp only [find?]
    split
    · next hj => exact .some (hj ▸ hab)
    · exact ih

lemma Alike.insert (h : m.Alike R n) {k : κ} {a b : α} (hab : R k a b) : (m.insert k a).Alike R (n.insert k b) := by
  unfold Alike at h
  change List.Forall₂ _ (write k a m.entries) (write k b n.entries)
  generalize m.entries = es at h ⊢
  generalize n.entries = fs at h ⊢
  induction h with
  | nil => exact .cons ⟨rfl, hab⟩ .nil
  | @cons e f _ _ he hrest ih =>
    obtain ⟨j, c⟩ := e
    obtain ⟨i, d⟩ := f
    obtain ⟨rfl, hcd⟩ := he
    simp only [write]
    split
    · next hj =>
      subst hj
      exact .cons ⟨rfl, hab⟩ hrest
    · exact .cons ⟨rfl, hcd⟩ ih

lemma Alike.erase (h : m.Alike R n) (k : κ) : (m.erase k).Alike R (n.erase k) := by
  unfold Alike at h
  change List.Forall₂ _ (m.entries.filter _) (n.entries.filter _)
  generalize m.entries = es at h ⊢
  generalize n.entries = fs at h ⊢
  induction h with
  | nil => exact .nil
  | @cons e f _ _ he hrest ih =>
    rw [List.filter_cons, List.filter_cons, ← he.1]
    split
    · exact .cons he ih
    · exact ih

end
end Ledger

/-- Credentials of the same client for the same monitor. -/
inductive Credentials.Alike : Credentials → Credentials → Prop
  | same (c) : Alike c c
  | keys (monitor) {key key'} (h : key ≠ Command.keyOption) (h' : key' ≠ Command.keyOption) :
      Alike ⟨monitor, clientId, key⟩ ⟨monitor, clientId, key'⟩

/-- Answers to a request that are the same, or both describe a secret that holds a key. -/
inductive Response.Alike (name : ObjectName) : Response → Response → Prop
  | same (r) : Alike name r r
  | keys {r r' key key'} (secret : name.kind = .secret) (read : Credentials.keyOf name.ns r = .ok key)
      (read' : Credentials.keyOf name.ns r' = .ok key') (h : key ≠ Command.keyOption)
      (h' : key' ≠ Command.keyOption) : Alike name r r'

lemma Response.Alike.eq_of_configuration {name : ObjectName} {r r' : Response} (h : r.Alike name r')
    (configuration : name.kind = .configuration) : r = r' := by
  cases h with
  | same => rfl
  | keys secret =>
    rw [configuration] at secret
    cases secret

mutual

/-- The same step, also in the commands that it sets up, but for the keys of the secrets that it sets. -/
inductive Step.Alike : Step → Step → Prop
  | same (step) : Step.Alike step step
  | setObject {name r r'} (h : r.Alike name r') : Step.Alike (.setObject name r) (.setObject name r')
  | setEndings (pool) {outcomes outcomes'} (h : List.Forall₂ Outcome.Alike outcomes outcomes') :
      Step.Alike (.setEndings pool outcomes) (.setEndings pool outcomes')

/-- The same ending, while which alike steps are taken. -/
inductive Outcome.Alike : Outcome → Outcome → Prop
  | mk (ending) {steps steps'} (h : List.Forall₂ Step.Alike steps steps') :
      Outcome.Alike (.mk ending steps) (.mk ending steps')

end

mutual

lemma Step.Alike.size_eq : ∀ {a b : Step}, a.Alike b → a.size = b.size
  | _, _, .same _ => rfl
  | _, _, .setObject _ => rfl
  | _, _, .setEndings _ h => congrArg (· + 1) (sizeOfOutcomes_eq h)

lemma Outcome.Alike.size_eq : ∀ {a b : Outcome}, a.Alike b → a.size = b.size
  | _, _, .mk _ h => sizeOfSteps_eq h

lemma sizeOfOutcomes_eq : ∀ {a b : List Outcome}, List.Forall₂ Outcome.Alike a b → sizeOfOutcomes a = sizeOfOutcomes b
  | _, _, .nil => rfl
  | _, _, .cons h hs => congrArg₂ (· + ·) h.size_eq (sizeOfOutcomes_eq hs)

lemma sizeOfSteps_eq : ∀ {a b : List Step}, List.Forall₂ Step.Alike a b → sizeOfSteps a = sizeOfSteps b
  | _, _, .nil => rfl
  | _, _, .cons h hs => congrArg₂ (· + ·) h.size_eq (sizeOfSteps_eq hs)

end

/-- Arguments of the same number, with the option for a key in the same place and the same but for what follows it. -/
def Command.Alike (args args' : List String) : Prop :=
  args.length = args'.length ∧ args[12]? = some keyOption ∧ ∀ i, i ≠ 13 → args[i]? = args'[i]?

/-- The same reply, but for the key of credentials that were asked for. -/
inductive Reply.Alike : Reply → Reply → Prop
  | same (r) : Alike r r
  | credentials {c c'} (h : c.Alike c') : Alike (.answer (.credentials c)) (.answer (.credentials c'))

/-- The same event, but for the key of a command, of replies, and of credentials that are learned. -/
inductive Event.Alike : Event → Event → Prop
  | asked (name) : Alike (.asked name) (.asked name)
  | started {args args'} (h : Command.Alike args args') (timeout locked) :
      Alike (.started args timeout locked) (.started args' timeout locked)
  | ended (ending) {replies replies'} (h : List.Forall₂ Reply.Alike replies replies') :
      Alike (.ended ending replies) (.ended ending replies')
  | logged (line) : Alike (.logged line) (.logged line)
  | changed (change) : Alike (.changed change) (.changed change)
  | learned (ns) {c c'} (h : c.Alike c') : Alike (.changed (.learned ns c)) (.changed (.learned ns c'))

/-- The same worlds but for the keys of secrets, now and in the steps that others will take. -/
structure World.Alike (w w' : World) : Prop where
  objects : w.objects.Alike Response.Alike w'.objects
  outcomes : w.outcomes.Alike (fun _ => List.Forall₂ Outcome.Alike) w'.outcomes

/-! ## Worlds -/

lemma Outcome.Alike.refl (o : Outcome) : o.Alike o := by
  cases o
  exact .mk _ (List.forall₂_same.2 fun step _ => .same step)

namespace World
variable {w w' : World}

lemma Alike.respond (h : w.Alike w') (name : ObjectName) : (w.respond name).Alike name (w'.respond name) := by
  have hr := h.objects.get? name
  unfold World.respond
  generalize w.objects.get? name = r at hr ⊢
  generalize w'.objects.get? name = r' at hr ⊢
  cases hr with
  | some h => exact h
  | none => exact .same _

lemma Alike.setObject (h : w.Alike w') {name : ObjectName} {r r' : Response} (hr : r.Alike name r') :
    (w.setObject name r).Alike (w'.setObject name r') :=
  ⟨h.objects.insert hr, h.outcomes⟩

lemma Alike.removeObject (h : w.Alike w') (name : ObjectName) : (w.removeObject name).Alike (w'.removeObject name) :=
  ⟨h.objects.erase name, h.outcomes⟩

lemma Alike.setOutcomes (h : w.Alike w') (pool : String) {outcomes outcomes' : List Outcome}
    (ho : List.Forall₂ Outcome.Alike outcomes outcomes') :
    (w.setOutcomes pool outcomes).Alike (w'.setOutcomes pool outcomes') :=
  ⟨h.objects, h.outcomes.insert ho⟩

lemma Alike.takeOutcome (h : w.Alike w') (pool : String) :
    (w.takeOutcome pool).1.Alike (w'.takeOutcome pool).1 ∧ (w.takeOutcome pool).2.Alike (w'.takeOutcome pool).2 := by
  have ho : List.Forall₂ Outcome.Alike ((w.outcomes.get? pool).getD []) ((w'.outcomes.get? pool).getD []) := by
    have hg := h.outcomes.get? pool
    generalize w.outcomes.get? pool = o at hg ⊢
    generalize w'.outcomes.get? pool = o' at hg ⊢
    cases hg with
    | some h => exact h
    | none => exact .nil
  unfold World.takeOutcome
  generalize (w.outcomes.get? pool).getD [] = o at ho ⊢
  generalize (w'.outcomes.get? pool).getD [] = o' at ho ⊢
  cases ho with
  | nil => exact ⟨.refl _, h⟩
  | @cons first first' _ _ hfirst hrest =>
    cases hrest with
    | nil =>
      cases hfirst with
      | mk ending hsteps => exact ⟨.mk ending hsteps, h.setOutcomes pool (.cons (.mk ending .nil) .nil)⟩
    | cons hnext hrest => exact ⟨hfirst, h.setOutcomes pool (.cons hnext hrest)⟩

lemma Alike.size_eq (h : w.Alike w') : w.size = w'.size := by
  have ho := h.outcomes
  unfold Ledger.Alike at ho
  unfold World.size
  generalize w.outcomes.entries = es at ho ⊢
  generalize w'.outcomes.entries = fs at ho ⊢
  induction ho with
  | nil => rfl
  | cons he _ ih => rw [List.foldr_cons, List.foldr_cons, ih, sizeOfOutcomes_eq he.2]

end World

/-! ## Command lines -/
namespace Command
variable {c c' : Credentials}

lemma alike_status (h : c.Alike c') (command pool : String) :
    Alike (status command pool c) (status command pool c') := by
  refine ⟨rfl, rfl, fun i hi => ?_⟩
  cases h with
  | same => rfl
  | keys monitor =>
    rcases Nat.lt_or_ge i 13 with hlt | hge
    · interval_cases i <;> rfl
    · obtain ⟨j, rfl⟩ : ∃ j, i = j + 14 := ⟨i - 14, by omega⟩
      rfl

/-- A command line for logs does not show the key. -/
lemma line_status (h : c.Alike c') (command pool : String) :
    line (status command pool c) = line (status command pool c') := by
  cases h with
  | same => rfl
  | keys monitor h h' =>
    have shown {key : String} (hk : key ≠ keyOption) : (key == keyOption) = false := beq_eq_false_iff_ne.2 hk
    simp only [line, redacted, status, hideAfter, shown h, shown h']
    rfl

end Command

lemma Credentials.Alike.isEmpty_eq {c c' : Credentials} (h : c.Alike c') : c.isEmpty = c'.isEmpty := by
  cases h with
  | same => rfl
  | keys monitor =>
    have named : Credentials.clientId.isEmpty = false := by decide
    simp [Credentials.isEmpty, named]

lemma Credentials.Alike.monitor_eq {c c' : Credentials} (h : c.Alike c') : c.monitor = c'.monitor := by
  cases h with
  | same => rfl
  | keys monitor => rfl

/-! ## Caches -/

/-- The same caches but for the keys of the credentials that they hold. -/
structure Cache.Alike (c d : Cache) : Prop where
  setup : c.setup = d.setup
  known : c.known.Alike (fun _ => Credentials.Alike) d.known
  records : c.records = d.records
  locked : c.locked = d.locked

lemma Cache.Alike.learned {c d : Cache} (h : c.Alike d) (ns : String) {given given' : Credentials}
    (hg : given.Alike given') : (c.apply (.learned ns given)).Alike (d.apply (.learned ns given')) :=
  ⟨h.setup, h.known.insert hg, h.records, h.locked⟩

lemma Cache.Alike.apply {c d : Cache} (h : c.Alike d) (change : Change) :
    (c.apply change).Alike (d.apply change) := by
  cases change with
  | stored uid record => exact ⟨h.setup, h.known, congrArg (·.insert uid record) h.records, h.locked⟩
  | refreshed uid record => exact ⟨h.setup, h.known, congrArg (·.insert uid record) h.records, h.locked⟩
  | removed uid => exact ⟨h.setup, h.known, congrArg (·.erase uid) h.records, h.locked⟩
  | cleared => exact ⟨h.setup, h.known, rfl, h.locked⟩
  | learned ns c => exact h.learned ns (.same c)
  | forgot ns => exact ⟨h.setup, h.known.erase ns, h.records, h.locked⟩
  | forgotAll => exact ⟨h.setup, Ledger.alike_empty, h.records, h.locked⟩

end ReplicaWatch
