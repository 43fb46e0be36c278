import FieldAccess.Audit.Delivery
import FieldAccess.Manifest.Check
import Mathlib.Algebra.Group.Nat.Defs
import Mathlib.Data.List.Basic

/-!
# Checked manifests

The manifests that pass their check, told by conditions on their parts, and what the check promises
of the audit queue. A queue is opened for the length that the manifest asks for. The check refuses
the length 0 but no length that is too great, so that a manifest that passes has its queue exactly
if a queue can be that long.

## Main statements

* `AuditSettings.check_eq_ok_iff`, `Manifest.check_eq_ok_iff` – the manifests that pass.
* `Manifest.audit_queue_of_check` – the queue of a manifest that passes.
-/

namespace FieldAccess

namespace ManifestFault

/-- A fault ends the check, and without it the check goes on. -/
theorem guarded_eq_ok_iff {c : Prop} [Decidable c] {fault : ManifestFault}
    {next : Unit → Except ManifestFault Unit} :
    (if c then (throw fault >>= next) else next ()) = .ok () ↔ ¬ c ∧ next () = .ok () := by
  by_cases hc : c
  · rw [if_pos hc]
    constructor
    · intro h
      cases h
    · rintro ⟨hnot, -⟩
      exact absurd hc hnot
  · rw [if_neg hc]
    exact ⟨fun h => ⟨hc, h⟩, fun h => h.2⟩

theorem bind_eq_ok_iff {check : Except ManifestFault Unit}
    {next : Unit → Except ManifestFault Unit} :
    (check >>= next) = .ok () ↔ check = .ok () ∧ next () = .ok () := by
  cases check with
  | error fault =>
    constructor
    · intro h
      cases h
    · rintro ⟨h, -⟩
      cases h
  | ok _ => exact ⟨fun h => ⟨rfl, h⟩, fun h => h.2⟩

end ManifestFault

open ManifestFault

theorem AuditSettings.check_eq_ok_iff {settings : AuditSettings} :
    settings.check = .ok () ↔ settings.queueCapacity ≠ 0 ∧ settings.timeoutMs ≠ 0 ∧
      ∀ endpoint, settings.endpoint = some endpoint → checkEndpoint endpoint = .ok () := by
  simp only [check, guarded_eq_ok_iff]
  cases settings.endpoint <;> simp [pure, Except.pure]

namespace Audit

theorem Queue.ofCapacity?_eq (capacity : Nat) : Queue.ofCapacity? capacity =
    if 0 < capacity ∧ capacity < 2 ^ 61 then some { capacity } else none := by
  have hmax : maxCapacity = 2 ^ 61 - 1 := by decide
  rw [ofCapacity?, hmax]
  by_cases hpossible : 0 < capacity ∧ capacity < 2 ^ 61
  · rw [if_pos hpossible, if_neg]
    simp only [Bool.or_eq_true, decide_eq_true_eq]
    omega
  · rw [if_neg hpossible, if_pos]
    simp only [Bool.or_eq_true, decide_eq_true_eq]
    omega

/-- Settings with an endpoint open a queue if it can have the length that they ask for. -/
theorem Sink.open?_eq {settings : AuditSettings} {endpoint : String}
    (hendpoint : settings.endpoint = some endpoint) (hpos : settings.queueCapacity ≠ 0) :
    Sink.open? (some settings) =
      if settings.queueCapacity.toNat < 2 ^ 61 then
        some (.queue endpoint settings.serviceName { capacity := settings.queueCapacity.toNat })
      else none := by
  have hpositive : 0 < settings.queueCapacity.toNat := by
    rw [Nat.pos_iff_ne_zero]
    exact fun hzero => hpos (UInt64.toNat_inj.1 hzero)
  simp only [Sink.open?, hendpoint, Queue.ofCapacity?_eq, hpositive, true_and]
  split <;> rfl

end Audit

namespace Manifest

variable {manifest : Manifest}

theorem check_eq_ok_iff : manifest.check = .ok () ↔
    manifest.apiVersion = currentApiVersion ∧ manifest.kind = expectedKind ∧
      manifest.metadata.name ≠ "" ∧ manifest.spec.database.check = .ok () ∧
      (∀ settings, manifest.spec.audit = some settings → settings.check = .ok ()) ∧
      ∀ settings, manifest.spec.observability = some settings → settings.check = .ok () := by
  simp only [check, guarded_eq_ok_iff, bind_eq_ok_iff, ne_eq, Decidable.not_not]
  cases manifest.spec.audit <;> cases manifest.spec.observability <;>
    simp [bind_eq_ok_iff, pure, Except.pure]

/-- The manifest that asks for a queue of another length. -/
def withQueueCapacity (manifest : Manifest) (capacity : UInt64) : Manifest :=
  { manifest with
    spec.audit := manifest.spec.audit.map ({ · with queueCapacity := capacity }) }

theorem check_withQueueCapacity (hcheck : manifest.check = .ok ()) {capacity : UInt64}
    (hpos : capacity ≠ 0) : (manifest.withQueueCapacity capacity).check = .ok () := by
  obtain ⟨hversion, hkind, hname, hdatabase, haudit, hlog⟩ := check_eq_ok_iff.1 hcheck
  refine check_eq_ok_iff.2 ⟨hversion, hkind, hname, hdatabase, fun settings hsettings => ?_, hlog⟩
  obtain ⟨old, hold, rfl⟩ := Option.map_eq_some_iff.1 hsettings
  obtain ⟨-, htimeout, hendpoint⟩ := AuditSettings.check_eq_ok_iff.1 (haudit old hold)
  exact AuditSettings.check_eq_ok_iff.2 ⟨hpos, htimeout, hendpoint⟩

/-- **Audit queues.** A manifest that passes its check and names an endpoint has a queue to it,
empty and of the length that it asks for, exactly if this length is below 2 ^ 61. The check does not
see to that: the manifest passes with every other length, too, as long as it is not 0. -/
theorem audit_queue_of_check (hcheck : manifest.check = .ok ()) {settings : AuditSettings}
    (hsettings : manifest.spec.audit = some settings) {endpoint : String}
    (hendpoint : settings.endpoint = some endpoint) :
    (Audit.Sink.open? manifest.spec.audit =
      if settings.queueCapacity.toNat < 2 ^ 61 then
        some (.queue endpoint settings.serviceName { capacity := settings.queueCapacity.toNat })
      else none) ∧
    ∀ capacity : UInt64, capacity ≠ 0 →
      (manifest.withQueueCapacity capacity).check = .ok () := by
  obtain ⟨-, -, -, -, haudit, -⟩ := check_eq_ok_iff.1 hcheck
  obtain ⟨hpos, -, -⟩ := AuditSettings.check_eq_ok_iff.1 (haudit settings hsettings)
  rw [hsettings]
  exact ⟨Audit.Sink.open?_eq hendpoint hpos, fun _ => check_withQueueCapacity hcheck⟩

/-- An instance that keeps its policies in memory and reports to an audit service over a queue of
the given length. -/
def reporting (capacity : UInt64) : Manifest :=
  { standard "registry" with
    spec.database := { DatabaseSettings.standard with backend := .inMemory }
    spec.audit := some { endpoint := some "http://audit", queueCapacity := capacity } }

/-- The longest queue is opened, and the manifest that asks for a longer one passes its check. -/
theorem audit_queue_of_check_reporting :
    (reporting 2305843009213693951).check = .ok () ∧
      Audit.Sink.open? (reporting 2305843009213693951).spec.audit =
        some (.queue "http://audit" "policy-decision-point" { capacity := 2305843009213693951 }) ∧
      (reporting 2305843009213693952).check = .ok () := by
  have hcheck : (reporting 2305843009213693951).check = .ok () := by decide +kernel
  obtain ⟨hopen, hothers⟩ := audit_queue_of_check hcheck rfl rfl
  rw [if_pos (by decide)] at hopen
  exact ⟨hcheck, hopen, hothers 2305843009213693952 (by decide)⟩

/-- Not every manifest that passes its check comes to have its queue. -/
theorem not_audit_queue_of_check :
    ¬ ∀ (manifest : Manifest) (settings : AuditSettings), manifest.check = .ok () →
      manifest.spec.audit = some settings → settings.endpoint.isSome = true →
        (Audit.Sink.open? manifest.spec.audit).isSome = true := by
  intro h
  have hopen := h (reporting 2305843009213693952) _ (by decide +kernel) rfl rfl
  revert hopen
  decide +kernel

end Manifest

end FieldAccess
