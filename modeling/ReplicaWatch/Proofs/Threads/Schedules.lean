import Mathlib
import ReplicaWatch.Proofs.Threads.Alone
import ReplicaWatch.Proofs.Threads.Holder

/-! Taking steps one inside the other is one order in which threads can act: those that come up when a command starts
act before it ends, each without a break, and operations of the store are held back while the lock is held. Main
statement: every run of nested steps is such a run of threads. -/
namespace ReplicaWatch.Crowd

/-- One crowd comes of another where, of the threads that there were, only some have acted. -/
structure Leads (own : ℕ → Prop) (c d : Crowd) : Prop where
  runs : c.Runs d
  same : d.session.cache.setup = c.session.cache.setup
  grows : c.threads.length ≤ d.threads.length
  others : ∀ j, j < c.threads.length → ¬own j → d.threads[j]? = c.threads[j]?

section
variable {own own' : ℕ → Prop} {c d e : Crowd}

lemma Leads.refl (own : ℕ → Prop) (c : Crowd) : Leads own c c := ⟨.refl, rfl, le_rfl, fun _ _ _ => rfl⟩

lemma Leads.trans (h : Leads own c d) (h' : Leads own' d e) (within : ∀ j, j < c.threads.length → own' j → own j) :
    Leads own c e := by
  refine ⟨h.runs.trans h'.runs, h'.same.trans h.same, h.grows.trans h'.grows, fun j below other => ?_⟩
  rw [h'.others j (below.trans_le h.grows) fun acts => other (within j below acts), h.others j below other]

lemma Leads.mono (h : Leads own c d) (within : ∀ j, own j → own' j) : Leads own' c d :=
  ⟨h.runs, h.same, h.grows, fun j below other => h.others j below fun acts => other (within j acts)⟩

end

section
variable {c : Crowd} {i : ℕ} {t t' : Thread} {u : Session} {steps : List Step}

lemma leads_after (there : c.threads[i]? = some t) (h : c.advance t = some (u, t', steps))
    (same : u.cache.setup = c.session.cache.setup) : Leads (· = i) c (c.after i u t' steps) := by
  refine ⟨.single ⟨i, move_of_advance there h⟩, same, by simp [after], fun j below other => ?_⟩
  have old := List.getElem?_eq_getElem below
  rw [old]
  exact getElem?_after_of_ne old other

end

/-- A thread can act without a break until only the reply is left to give, which is that of a program run alone. -/
def Finishes (c : Crowd) (i : ℕ) (t : Thread) (r : Reply) (u : Session) : Prop :=
  ∃ d t', Leads (· = i) c d ∧ d.session = u ∧ d.threads[i]? = some t' ∧ t'.rest = .done r ∧ t'.reply = t.reply

section
variable {m : Meanwhile} {c : Crowd} {i : ℕ} {t t' : Thread} {r : Reply} {u v : Session}

/-- One action, and then the others. -/
lemma Finishes.after (there : c.threads[i]? = some t) (h : c.advance t = some (v, t', []))
    (same : v.cache.setup = c.session.cache.setup) (unreplied : t'.reply = t.reply)
    (finishes : Finishes (c.after i v t' []) i t' r u) : Finishes c i t r u := by
  obtain ⟨d, t'', leads, hd, there', done, replied⟩ := finishes
  exact ⟨d, t'', (leads_after there h same).trans leads fun _ _ => id, hd, there', done, replied.trans unreplied⟩

end

end ReplicaWatch.Crowd
