import Mathlib.Tactic.Common

/-!
# Transactions under faults

A transaction is a script of statements on a store. The environment may let an attempt through,
raise an error while it is still open (the store rolls back), or lose the connection after the
commit took effect, so that a committed attempt is reported as failed.
-/

namespace OpenWater.Framework

variable {σ ε : Type*}

theorem bind_ok {ε α β : Type*} {x : Except ε α} {f : α → Except ε β} {b : β} :
    x.bind f = .ok b ↔ ∃ a, x = .ok a ∧ f a = .ok b := by
  cases x <;> simp [Except.bind]

theorem bind_error {ε α β : Type*} {x : Except ε α} {f : α → Except ε β} {e : ε} :
    x.bind f = .error e ↔ x = .error e ∨ ∃ a, x = .ok a ∧ f a = .error e := by
  cases x <;> simp [Except.bind]

theorem mapError_ok {ε ε' α : Type*} {x : Except ε α} {f : ε → ε'} {a : α} :
    x.mapError f = .ok a ↔ x = .ok a := by
  cases x <;> simp [Except.mapError]

def runScript : List (σ → Except ε σ) → σ → Except ε σ
  | [], s => .ok s
  | stmt :: rest, s => match stmt s with
    | .ok s' => runScript rest s'
    | .error e => .error e

theorem runScript_cons_ok {stmt : σ → Except ε σ} {rest : List (σ → Except ε σ)} {s t : σ} :
    runScript (stmt :: rest) s = .ok t ↔ ∃ s', stmt s = .ok s' ∧ runScript rest s' = .ok t := by
  rw [runScript]
  cases stmt s with
  | ok s' => simp
  | error e => simp

def reportOf (r : Except ε σ) : Except ε Unit := r.map fun _ => ()

theorem runScript_report {P : σ → Prop} {script : List (σ → Except ε σ)}
    (hrep : ∀ stmt ∈ script, ∀ s s', P s → P s' → reportOf (stmt s) = reportOf (stmt s'))
    (hkeep : ∀ stmt ∈ script, ∀ s t, P s → stmt s = .ok t → P t) {s s' : σ}
    (hs : P s) (hs' : P s') : reportOf (runScript script s) = reportOf (runScript script s') := by
  induction script generalizing s s' with
  | nil => rfl
  | cons stmt rest ih =>
    have hhead := hrep stmt List.mem_cons_self s s' hs hs'
    have hkeep' := hkeep stmt List.mem_cons_self
    rw [runScript, runScript]
    cases h : stmt s with
    | error e =>
      cases h' : stmt s' with
      | error e' =>
        rw [h, h'] at hhead
        exact hhead
      | ok t' => simp [h, h', reportOf, Except.map] at hhead
    | ok t =>
      cases h' : stmt s' with
      | error e' => simp [h, h', reportOf, Except.map] at hhead
      | ok t' =>
        exact ih (fun q hq => hrep q (List.mem_cons_of_mem _ hq))
          (fun q hq => hkeep q (List.mem_cons_of_mem _ hq)) (hkeep' s t hs h) (hkeep' s' t' hs' h')

/-- What the environment does to one attempt. -/
inductive Fault (ε : Type*) where
  | none
  /-- The error arrives when `k` statements have run; `k` past the script is a failed commit. -/
  | before (k : Nat) (err : ε)
  /-- The commit takes effect, and its caller sees an error. -/
  | afterCommit (err : ε)

structure Attempt (ε σ : Type*) where
  report : Except ε Unit
  state : σ
  committed : Bool

/-- One attempt: the script's effect as a whole, or none of it. -/
def transact (script : List (σ → Except ε σ)) : Fault ε → σ → Attempt ε σ
  | .none, s => match runScript script s with
    | .ok s' => ⟨.ok (), s', true⟩
    | .error e => ⟨.error e, s, false⟩
  | .before k err, s => match runScript (script.take k) s with
    | .ok _ => ⟨.error err, s, false⟩
    | .error e => ⟨.error e, s, false⟩
  | .afterCommit err, s => match runScript script s with
    | .ok s' => ⟨.error err, s', true⟩
    | .error e => ⟨.error e, s, false⟩

/-- Everything an attempt can do: commit the whole script, or report an error and roll back. -/
theorem transact_cases (script : List (σ → Except ε σ)) (fault : Fault ε) (s : σ) :
    ((transact script fault s).committed = true ∧
        runScript script s = .ok (transact script fault s).state) ∨
      ((transact script fault s).committed = false ∧ (transact script fault s).state = s ∧
        ∃ e, (transact script fault s).report = .error e) := by
  cases fault with
  | none => cases hr : runScript script s <;> simp [transact, hr]
  | before k err => cases hr : runScript (script.take k) s <;> simp [transact, hr]
  | afterCommit err => cases hr : runScript script s <;> simp [transact, hr]

theorem transact_report {script : List (σ → Except ε σ)} {s s' : σ}
    (h : ∀ k, reportOf (runScript (script.take k) s) = reportOf (runScript (script.take k) s'))
    (fault : Fault ε) : (transact script fault s).report = (transact script fault s').report := by
  have hall := h script.length
  rw [List.take_length] at hall
  cases fault with
  | none =>
    cases hr : runScript script s <;> cases hr' : runScript script s' <;>
      simp_all [transact, reportOf, Except.map]
  | before k err =>
    have hk := h k
    cases hr : runScript (script.take k) s <;> cases hr' : runScript (script.take k) s' <;>
      simp_all [transact, reportOf, Except.map]
  | afterCommit err =>
    cases hr : runScript script s <;> cases hr' : runScript script s' <;>
      simp_all [transact, reportOf, Except.map]

end OpenWater.Framework
