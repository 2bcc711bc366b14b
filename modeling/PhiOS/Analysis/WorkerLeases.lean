import PhiOS.Analysis.LeaseChains
import PhiOS.Library.CrashTriple

/-!
# What a call does to the leases

`WorkerWorld.Sound` is what the files and the locks keep, at every point of a call: the leases of each
service are one chain. Each call of a worker and of the manager has its triple.
-/

set_option autoImplicit false

namespace PhiOS

open Interaction Calendar

/-! ## Worlds -/

/-- What the files and the locks keep: the leases of each service are one chain, each tick is
recorded under a lease that covers it, and no file is held by two locks. -/
structure WorkerWorld.Sound (rt : WorkerRuntime) (w : WorkerWorld) : Prop where
  leases : ∀ serviceId, LeaseChain rt (w.leasesOf serviceId)
  ticks : ∀ tick ∈ w.ticks, ∃ lease ∈ w.leases, Covers rt lease tick
  exclusive : ∀ {m n : ℕ} {key : String}, w.holds m = some key → w.holds n = some key → m = n

/-- What a call does to the files and the locks, next to keeping them sound: the leases of a service
change only where no lock but the call's own holds its file, and of the locks that there were, none
comes to hold a file. -/
structure WorkerWorld.Moves (rt : WorkerRuntime) (own : Option ℕ) (w w' : WorkerWorld) : Prop where
  sound : w'.Sound rt
  kept : ∀ serviceId, w'.leasesOf serviceId = w.leasesOf serviceId ∨
    ∀ m, own ≠ some m → w.holds m ≠ some (serviceKey rt serviceId)
  locks : w.locks.length ≤ w'.locks.length
  held : ∀ {m : ℕ} {key : String}, m < w.locks.length → w'.holds m = some key → w.holds m = some key

section Worlds

variable {rt : WorkerRuntime} {own : Option ℕ} {w w₁ w₂ : WorkerWorld}

theorem WorkerWorld.Sound.moves (h : w.Sound rt) : w.Moves rt own w where
  sound := h
  kept := fun _ => Or.inl rfl
  locks := le_refl _
  held := fun _ hheld => hheld

theorem WorkerWorld.Moves.appendEvent (h : w.Moves rt own w₁) (event : ScheduleWorkerLeaseEvent) :
    w.Moves rt own (w₁.append (.appendEvent event)) where
  sound := ⟨h.sound.leases, h.sound.ticks, h.sound.exclusive⟩
  kept := h.kept
  locks := h.locks
  held := h.held

theorem WorkerWorld.Moves.appendTick (h : w.Moves rt own w₁) {tick : ScheduleWorkerTickReceipt}
    {lease : ScheduleWorkerLease} (hlease : lease ∈ w₁.leases) (hcovers : Covers rt lease tick) :
    w.Moves rt own (w₁.append (.appendTickReceipt tick)) where
  sound := by
    refine ⟨h.sound.leases, ?_, h.sound.exclusive⟩
    intro tick' hmem
    rcases List.mem_append.mp hmem with hold | hnew
    · exact h.sound.ticks tick' hold
    · rw [List.mem_singleton.mp hnew]
      exact ⟨lease, hlease, hcovers⟩
  kept := h.kept
  locks := h.locks
  held := h.held

theorem WorkerWorld.leasesOf_append (lease : ScheduleWorkerLease) (serviceId : String) :
    (w.append (.appendLease lease)).leasesOf serviceId =
      w.leasesOf serviceId ++ if lease.serviceId = serviceId then [lease] else [] := by
  unfold WorkerWorld.append WorkerWorld.leasesOf
  rw [List.filter_append]
  congr 1
  by_cases hsame : lease.serviceId = serviceId <;> simp [hsame]

/-- One lease more, which goes on with the chain of its service, where no lock but the own
one holds the file. -/
theorem WorkerWorld.Moves.appendLease (h : w.Moves rt own w₁) {lease : ScheduleWorkerLease}
    (hchain : LeaseChain rt (w₁.leasesOf lease.serviceId ++ [lease]))
    (howned : ∀ m, own ≠ some m → w.holds m ≠ some (serviceKey rt lease.serviceId)) :
    w.Moves rt own (w₁.append (.appendLease lease)) where
  sound := by
    refine ⟨?_, ?_, h.sound.exclusive⟩
    · intro serviceId
      rw [WorkerWorld.leasesOf_append]
      by_cases hsame : lease.serviceId = serviceId
      · rw [if_pos hsame, ← hsame]
        exact hchain
      · rw [if_neg hsame, List.append_nil]
        exact h.sound.leases serviceId
    · intro tick hmem
      obtain ⟨covering, hcovering, hcovers⟩ := h.sound.ticks tick hmem
      exact ⟨covering, List.mem_append_left _ hcovering, hcovers⟩
  kept := by
    intro serviceId
    by_cases hsame : lease.serviceId = serviceId
    · rw [← hsame]
      exact Or.inr howned
    · rw [WorkerWorld.leasesOf_append, if_neg hsame, List.append_nil]
      exact h.kept serviceId
  locks := h.locks
  held := h.held

theorem WorkerWorld.holds_acquire (key : String) (m : ℕ) :
    ({ w with locks := w.locks ++ [some key] } : WorkerWorld).holds m =
      if m = w.locks.length then some key else w.holds m := by
  unfold WorkerWorld.holds
  rcases lt_trichotomy m w.locks.length with hlt | heq | hgt
  · rw [if_neg hlt.ne, List.getElem?_append_left hlt]
  · rw [if_pos heq, heq, List.getElem?_append_right (le_refl _)]
    simp
  · have hbeyond : (w.locks ++ [some key]).length ≤ m := by
      rw [List.length_append, List.length_singleton]
      omega
    rw [if_neg hgt.ne', List.getElem?_eq_none hbeyond, List.getElem?_eq_none hgt.le]

theorem WorkerWorld.holds_release (lock m : ℕ) :
    ({ w with locks := w.locks.set lock none } : WorkerWorld).holds m =
      if m = lock then none else w.holds m := by
  unfold WorkerWorld.holds
  rw [List.getElem?_set]
  by_cases hsame : m = lock
  · subst hsame
    simp only [if_true]
    split <;> rfl
  · rw [if_neg (Ne.symm hsame), if_neg hsame]

theorem WorkerWorld.mem_of_holds {m : ℕ} {key : String} (h : w.holds m = some key) :
    m < w.locks.length ∧ some key ∈ w.locks := by
  unfold WorkerWorld.holds at h
  have hkey : w.locks[m]? = some (some key) := by
    cases hm : w.locks[m]? with
    | none =>
        rw [hm] at h
        cases h
    | some x =>
        rw [hm] at h
        exact congrArg some h
  exact ⟨(List.getElem?_eq_some_iff.mp hkey).1, List.mem_of_getElem? hkey⟩

/-- A new lock, on a file that none holds. -/
theorem WorkerWorld.Moves.acquire (h : w.Moves rt own w₁) {key : String}
    (hfree : some key ∉ w₁.locks) :
    w.Moves rt own { w₁ with locks := w₁.locks ++ [some key] } where
  sound := by
    refine ⟨h.sound.leases, h.sound.ticks, ?_⟩
    have hnew : ∀ {m}, w₁.holds m ≠ some key := by
      intro m hm
      exact hfree (WorkerWorld.mem_of_holds hm).2
    intro m n key' hm hn
    rw [WorkerWorld.holds_acquire] at hm hn
    split at hm <;> split at hn
    · omega
    · cases hm
      exact absurd hn hnew
    · cases hn
      exact absurd hm hnew
    · exact h.sound.exclusive hm hn
  kept := h.kept
  locks := by
    have hle := h.locks
    simp only [List.length_append]
    omega
  held := by
    intro m key' hlt hm
    have hle := h.locks
    rw [WorkerWorld.holds_acquire, if_neg (by omega)] at hm
    exact h.held hlt hm

/-- A lock that is released. -/
theorem WorkerWorld.Moves.release (h : w.Moves rt own w₁) (lock : ℕ) :
    w.Moves rt own { w₁ with locks := w₁.locks.set lock none } where
  sound := by
    refine ⟨h.sound.leases, h.sound.ticks, ?_⟩
    intro m n key hm hn
    rw [WorkerWorld.holds_release] at hm hn
    split at hm
    · cases hm
    · split at hn
      · cases hn
      · exact h.sound.exclusive hm hn
  kept := h.kept
  locks := by
    have hle := h.locks
    rw [List.length_set]
    exact hle
  held := by
    intro m key hlt hm
    rw [WorkerWorld.holds_release] at hm
    split at hm
    · cases hm
    · exact h.held hlt hm

end Worlds

/-! ## Triples -/

/-- An operation that only reads. -/
def WorkerOp.Asks : WorkerOp → Prop
  | .current _ | .poll _ _ | .lockHeld _ | .latestLease _ | .events _ | .tickReceipts _ => True
  | _ => False

/-- The worker's lock, if it is held, holds the file of its service, whose last lease the worker
has. -/
structure WorkerWorld.Owns (rt : WorkerRuntime) (w : WorkerWorld) (worker : ScheduleWorker) :
    Prop where
  known : worker.lock < w.locks.length
  file : ∀ {key : String}, w.holds worker.lock = some key → key = serviceKey rt worker.lease.serviceId
  last : (w.holds worker.lock).isSome →
    (w.leasesOf worker.lease.serviceId).getLast? = some worker.lease

section Triples

variable {rt : WorkerRuntime} {own : Option ℕ} {w w₁ : WorkerWorld} {α : Type}

/-- The triple of a program of a call: the call moves as it may at every point. -/
abbrev KeepsSound (rt : WorkerRuntime) (own : Option ℕ) (w : WorkerWorld)
    (post : WorkerWorld → α → Prop) (p : WorkerProg α) (w₁ : WorkerWorld) : Prop :=
  p.Holds WorkerOp.effect (fun w' => w.Moves rt own w') post (fun _ _ => True) w₁

theorem WorkerOp.same_of_asks {o : WorkerOp} {r : o.Reply} {w' : WorkerWorld} (ho : o.Asks)
    (heffect : o.effect w r w') : w' = w := by
  cases o with
  | current serviceId => exact heffect
  | poll serviceId through => exact heffect
  | lockHeld lock => exact heffect.1
  | latestLease serviceId => cases r <;> simp_all [WorkerOp.effect]
  | events serviceId => cases r <;> simp_all [WorkerOp.effect]
  | tickReceipts serviceId => cases r <;> simp_all [WorkerOp.effect]
  | acquireLock key => exact ho.elim
  | releaseLock lock => exact ho.elim
  | appendLease lease => exact ho.elim
  | appendEvent event => exact ho.elim
  | appendTickReceipt receipt => exact ho.elim

theorem keepsSound_of_asks {p : WorkerProg α} (hp : p.Issues WorkerOp.Asks)
    (h : w.Moves rt own w₁) :
    KeepsSound rt own w (fun w' a => w' = w₁ ∧ p.Ends WorkerOp.effect w₁ (.ok a) w₁) p w₁ := by
  have hkeep : ∀ w o r w', WorkerOp.Asks o → w = w₁ → WorkerOp.effect w o r w' → w' = w₁ :=
    fun _ _ _ _ ho hsame heffect => (WorkerOp.same_of_asks ho heffect).trans hsame
  refine ((hp.holds_ends hkeep rfl).with_cut).mono ?_ ?_ (fun _ _ _ => trivial)
  · rintro w' rfl
    exact h
  · rintro w' a ⟨rfl, hends⟩
    exact ⟨rfl, hends⟩

theorem issues_ask {A : WorkerOp → Prop} {o : WorkerOp} {f : o.Reply → Except PyError α} (h : A o) :
    ((Prog.call o : WorkerProg o.Reply).bind fun r => .ofExcept (f r)).Issues A :=
  Prog.issues_op h fun r => Prog.issues_ofExcept (f r)

theorem current_asks (serviceId : String) : (WorkerProg.current serviceId).Issues WorkerOp.Asks :=
  issues_ask trivial

theorem poll_asks (serviceId : String) (through : ℤ) :
    (WorkerProg.poll serviceId through).Issues WorkerOp.Asks := issues_ask trivial

theorem lockHeld_asks (lock : ℕ) : (WorkerProg.lockHeld lock).Issues WorkerOp.Asks :=
  Prog.issues_op trivial fun _ => Prog.issues_ret _

theorem latestLease_asks (serviceId : String) :
    (WorkerProg.latestLease serviceId).Issues WorkerOp.Asks := issues_ask trivial

theorem events_asks (serviceId : String) : (WorkerProg.events serviceId).Issues WorkerOp.Asks :=
  issues_ask trivial

theorem nextCycleIndex_asks (serviceId : String) :
    (WorkerProg.nextCycleIndex serviceId).Issues WorkerOp.Asks := by
  unfold WorkerProg.nextCycleIndex
  apply Prog.Issues.bind
  · exact issues_ask trivial
  · exact fun rows => (Prog.issues_ofExcept _).bind fun _ => Prog.issues_ret _

/-- A lease is stored that goes on with the chain of its service. -/
theorem appendLease_keepsSound (h : w.Moves rt own w₁) (lease : ScheduleWorkerLease)
    (hchain : LeaseChain rt (w₁.leasesOf lease.serviceId ++ [lease]))
    (howned : ∀ m, own ≠ some m → w.holds m ≠ some (serviceKey rt lease.serviceId)) :
    KeepsSound rt own w (fun w' _ => w' = w₁.append (.appendLease lease))
      (WorkerProg.appendLease lease) w₁ := by
  have happended := h.appendLease hchain howned
  refine ⟨h, ?_⟩
  intro reply w' heffect
  cases reply with
  | ok u =>
      rw [show w' = w₁.append (.appendLease lease) from heffect]
      exact ⟨happended, rfl⟩
  | error e =>
      refine ⟨?_, trivial⟩
      rcases (heffect : w' = w₁ ∨ w' = w₁.append (.appendLease lease)) with rfl | rfl
      · exact h
      · exact happended

/-- An event is stored. -/
theorem appendEvent_keepsSound (h : w.Moves rt own w₁) (event : ScheduleWorkerLeaseEvent) :
    KeepsSound rt own w (fun w' _ => w' = w₁.append (.appendEvent event))
      (WorkerProg.appendEvent rt event) w₁ := by
  have happended := h.appendEvent event
  apply Prog.holds_ofExcept_bind h
  · exact fun _ _ => trivial
  · intro _ _
    refine ⟨h, ?_⟩
    intro reply w' heffect
    cases reply with
    | ok u =>
        rw [show w' = w₁.append (.appendEvent event) from heffect]
        exact ⟨happended, rfl⟩
    | error e =>
        refine ⟨?_, trivial⟩
        rcases (heffect : w' = w₁ ∨ w' = w₁.append (.appendEvent event)) with rfl | rfl
        · exact h
        · exact happended

/-- A tick is stored under a lease that covers it. -/
theorem appendTickReceipt_keepsSound (h : w.Moves rt own w₁) {tick : ScheduleWorkerTickReceipt}
    {lease : ScheduleWorkerLease} (hlease : lease ∈ w₁.leases) (hcovers : Covers rt lease tick) :
    KeepsSound rt own w (fun _ _ => True) (WorkerProg.appendTickReceipt rt tick) w₁ := by
  have happended := h.appendTick hlease hcovers
  apply Prog.holds_ofExcept_bind h
  · exact fun _ _ => trivial
  · intro _ _
    refine ⟨h, ?_⟩
    intro reply w' heffect
    cases reply with
    | ok u =>
        rw [show w' = w₁.append (.appendTickReceipt tick) from heffect]
        exact ⟨happended, trivial⟩
    | error e =>
        refine ⟨?_, trivial⟩
        rcases (heffect : w' = w₁ ∨ w' = w₁.append (.appendTickReceipt tick)) with rfl | rfl
        · exact h
        · exact happended

end Triples

/-! ## What a worker does -/

namespace ScheduleWorker

variable {rt : WorkerRuntime} {w : WorkerWorld} {worker : ScheduleWorker}

theorem requireLiveLock_asks (worker : ScheduleWorker) :
    worker.requireLiveLock.Issues WorkerOp.Asks :=
  (lockHeld_asks worker.lock).bind fun _ => Prog.issues_ofExcept _

theorem ends_requireLiveLock
    (h : worker.requireLiveLock.Ends WorkerOp.effect w (.ok ()) w) :
    (w.holds worker.lock).isSome := by
  obtain ⟨held, w₁, hcall, h⟩ := Prog.ends_bind h
  obtain ⟨answer, heffect, hanswer⟩ := Prog.ends_call.mp hcall
  rw [← Except.ok.inj hanswer] at heffect
  have hheld : held = (w.holds worker.lock).isSome := heffect.2
  have hpassed := raiseIf_eq_ok.mp (Prog.ends_ofExcept.mp h).1.symm
  rw [← hheld]
  simpa using hpassed

/-- The lease of a renewal renews the worker's. -/
theorem renews_renewedLease {now next validUntil acquired renewed : ℤ}
    (htimes : LeaseTimes rt worker.lease acquired renewed) (hnow : datetime now = .ok now)
    (hvalid : rt.Reads worker.lease.validUntil validUntil) (hbefore : now ≤ validUntil)
    (hnext : datetime (now + secondsMicros worker.lease.leaseSeconds) = .ok next)
    (hchecked : (worker.renewedLease rt now next).validate rt = .ok ()) :
    Renews rt worker.lease (worker.renewedLease rt now next) := by
  have hend : validUntil = renewed + secondsMicros worker.lease.leaseSeconds :=
    hvalid.unique htimes.validUntil
  have hnextEq := (datetime_eq_ok.mp hnext).1
  obtain ⟨⟨acquired', renewed', hacquired', hrenewed', hordered⟩, -⟩ :=
    ScheduleWorkerLease.validate_eq_ok hchecked
  have hsameAcquired : acquired' = acquired := hacquired'.unique htimes.acquiredAt
  have hsameRenewed : renewed' = now := hrenewed'.unique (reads_utcIso hnow)
  refine ⟨rfl, rfl, rfl, rfl, acquired, renewed, now, htimes, ?_, by omega⟩
  refine ⟨htimes.acquiredAt, reads_utcIso hnow, ?_, by omega, htimes.lasting⟩
  show rt.Reads (utcIso next) (now + secondsMicros worker.lease.leaseSeconds)
  rw [hnextEq]
  exact reads_utcIso hnext

theorem unheld_of_owns (hsound : w.Sound rt) (howns : w.Owns rt worker)
    (hheld : (w.holds worker.lock).isSome) :
    ∀ m, some worker.lock ≠ some m →
      w.holds m ≠ some (serviceKey rt worker.lease.serviceId) := by
  intro m hne hm
  obtain ⟨key, hkey⟩ := Option.isSome_iff_exists.mp hheld
  rw [← howns.file hkey] at hm
  exact hne (congrArg some (hsound.exclusive hkey hm))

/-- A renewal goes on with the chain, and leaves the worker with its last lease.
SOURCE: macro_schedule_worker.py:552-587 -/
theorem renew_keepsSound (hsound : w.Sound rt) (howns : w.Owns rt worker) (renewedAt : DateTime) :
    KeepsSound rt (some worker.lock) w (fun w' lease => w'.Owns rt ⟨worker.lock, lease⟩)
      (worker.renew rt renewedAt) w := by
  have hstart : w.Moves rt (some worker.lock) w := hsound.moves
  unfold renew
  apply Prog.holds_ofExcept_bind hstart (fun _ _ => trivial)
  intro now hnow
  apply (keepsSound_of_asks (requireLiveLock_asks worker) hstart).bind
  rintro w₁ _ - ⟨rfl, hlock⟩
  have hheld := ends_requireLiveLock hlock
  apply Prog.holds_ofExcept_bind hstart (fun _ _ => trivial)
  intro validUntil hvalid
  apply Prog.holds_ofExcept_bind hstart (fun _ _ => trivial)
  intro _ hbefore
  apply Prog.holds_ofExcept_bind hstart (fun _ _ => trivial)
  intro next hnext
  apply Prog.holds_ofExcept_bind hstart (fun _ _ => trivial)
  intro _ hchecked
  have hlast := howns.last hheld
  obtain ⟨acquired, renewed, htimes⟩ :=
    (hsound.leases _).timed worker.lease (List.mem_of_getLast? hlast)
  have hrenews := renews_renewedLease htimes (datetime_of_aware hnow) (parseWorkerUtc_eq_ok hvalid)
    (not_lt.mp (raiseIf_eq_ok.mp hbefore)) hnext hchecked
  obtain ⟨_, _, renewed', _, htimes', _⟩ := hrenews.times
  have hchain := (hsound.leases _).append hlast (Or.inl hrenews) ⟨_, renewed', htimes'⟩
  apply (appendLease_keepsSound hstart (worker.renewedLease rt now next) hchain
    (unheld_of_owns hsound howns hheld)).bind
  rintro w₁ _ hmoved rfl
  apply (appendEvent_keepsSound hmoved _).bind
  rintro w₂ _ hmoved' rfl
  refine ⟨hmoved', howns.known, howns.file, ?_⟩
  intro _
  show ((w₁.append (.appendLease _)).leasesOf _).getLast? = _
  rw [WorkerWorld.leasesOf_append, if_pos rfl, List.getLast?_append]
  rfl

theorem covers_of_receipt {now validUntil : ℤ} {tick : ScheduleWorkerTickReceipt}
    (hnow : datetime now = .ok now) (hvalid : rt.Reads worker.lease.validUntil validUntil) (hbefore : now ≤ validUntil)
    (hservice : tick.serviceId = worker.lease.serviceId)
    (hsha : tick.leaseSha256 = worker.lease.leaseSha256 rt) (hat : tick.tickAt = utcIso now) :
    Covers rt worker.lease tick := by
  refine ⟨hservice, hsha, now, validUntil, ?_, hvalid, hbefore⟩
  rw [hat]
  exact reads_utcIso hnow

/-- A tick is recorded under the worker's lease, which covers it.
SOURCE: macro_schedule_worker.py:589-686 -/
theorem tick_keepsSound (hsound : w.Sound rt) (howns : w.Owns rt worker) (tickAt : DateTime) :
    KeepsSound rt (some worker.lock) w (fun _ _ => True) (worker.tick rt tickAt) w := by
  have hstart : w.Moves rt (some worker.lock) w := hsound.moves
  unfold tick
  apply Prog.holds_ofExcept_bind hstart (fun _ _ => trivial)
  intro now hnow
  apply (keepsSound_of_asks (requireLiveLock_asks worker) hstart).bind
  rintro w₁ _ - ⟨rfl, hlock⟩
  have hheld := ends_requireLiveLock hlock
  apply Prog.holds_ofExcept_bind hstart (fun _ _ => trivial)
  intro validUntil hvalid
  apply Prog.holds_ofExcept_bind hstart (fun _ _ => trivial)
  intro _ hbefore
  have hmem : worker.lease ∈ w₁.leasesOf worker.lease.serviceId :=
    List.mem_of_getLast? (howns.last hheld)
  have hlease : worker.lease ∈ w₁.leases := List.mem_of_mem_filter hmem
  have hcovers : ∀ tick : ScheduleWorkerTickReceipt, tick.serviceId = worker.lease.serviceId →
      tick.leaseSha256 = worker.lease.leaseSha256 rt → tick.tickAt = utcIso now →
      Covers rt worker.lease tick := by
    intro tick hservice hsha hat
    exact covers_of_receipt (datetime_of_aware hnow) (parseWorkerUtc_eq_ok hvalid)
      (not_lt.mp (raiseIf_eq_ok.mp hbefore)) hservice hsha hat
  unfold performTick
  apply (keepsSound_of_asks (current_asks worker.lease.serviceId) hstart).bind
  rintro w₂ before - ⟨rfl, -⟩
  apply Prog.holds_ofExcept_bind hstart (fun _ _ => trivial)
  intro cursor _
  apply (keepsSound_of_asks (nextCycleIndex_asks worker.lease.serviceId) hstart).bind
  rintro w₃ cycleIndex - ⟨rfl, -⟩
  by_cases hcursor : now ≤ cursor
  · rw [if_pos hcursor]
    have hstored := appendTickReceipt_keepsSound hstart hlease
      (hcovers (worker.tickReceipt rt now cycleIndex before) rfl rfl rfl)
    apply hstored.bind
    exact fun w' _ hmoved _ => ⟨hmoved, trivial⟩
  · rw [if_neg hcursor]
    apply Prog.holds_ofExcept_bind hstart (fun _ _ => trivial)
    intro limit _
    apply (keepsSound_of_asks (poll_asks worker.lease.serviceId _) hstart).bind
    rintro w₄ outcome - ⟨rfl, -⟩
    have hstored := appendTickReceipt_keepsSound hstart hlease
      (hcovers (worker.polledReceipt rt now cycleIndex (min now limit) before outcome) rfl rfl rfl)
    apply hstored.bind
    exact fun w' _ hmoved _ => ⟨hmoved, trivial⟩

/-- A release stores an event and gives the lock up. -/
theorem release_keepsSound (hsound : w.Sound rt) (releasedAt : DateTime) :
    KeepsSound rt (some worker.lock) w (fun _ _ => True) (worker.release rt releasedAt) w := by
  have hstart : w.Moves rt (some worker.lock) w := hsound.moves
  unfold release
  apply Prog.holds_ofExcept_bind hstart (fun _ _ => trivial)
  intro now _
  apply (keepsSound_of_asks (lockHeld_asks worker.lock) hstart).bind
  rintro w₁ held - ⟨rfl, -⟩
  show KeepsSound rt _ _ _ (if _ then _ else _) _
  split
  · unfold releaseHeld
    apply (appendEvent_keepsSound hstart _).bind
    rintro w₂ _ hmoved rfl
    refine ⟨hmoved, ?_⟩
    intro reply w' heffect
    have hreleased := hmoved.release worker.lock
    rw [← show w' = _ from heffect] at hreleased
    cases reply with
    | ok u => exact ⟨hreleased, trivial⟩
    | error e => exact ⟨hreleased, trivial⟩
  · exact ⟨hstart, trivial⟩

end ScheduleWorker

/-! ## What the manager does -/

namespace ScheduleWorkerManager

variable {rt : WorkerRuntime} {w w₁ : WorkerWorld} {c : WorkerAcquire}

theorem ends_latestLease {serviceId : String} {previous : Option ScheduleWorkerLease}
    (h : (WorkerProg.latestLease serviceId).Ends WorkerOp.effect w (.ok previous) w₁) :
    previous = (w.leasesOf serviceId).getLast? := by
  obtain ⟨reply, w₂, hcall, hvalue⟩ := Prog.ends_bind h
  obtain ⟨answer, heffect, hanswer⟩ := Prog.ends_call.mp hcall
  rw [← Except.ok.inj hanswer] at heffect
  have hreply : reply = .ok previous := (Prog.ends_ofExcept.mp hvalue).1.symm
  rw [hreply] at heffect
  exact heffect.2

theorem times_firstLease {now next generation : ℤ} {sha : Option String}
    (hnow : datetime now = .ok now) (hnext : datetime (now + secondsMicros c.leaseSeconds) = .ok next)
    (hchecked : (firstLease rt c now next sha generation).validate rt = .ok ()) :
    LeaseTimes rt (firstLease rt c now next sha generation) now now := by
  obtain ⟨-, hlasting⟩ := ScheduleWorkerLease.validate_eq_ok hchecked
  refine ⟨reads_utcIso hnow, reads_utcIso hnow, ?_, le_refl _, hlasting⟩
  show rt.Reads (utcIso next) (now + secondsMicros c.leaseSeconds)
  rw [(datetime_eq_ok.mp hnext).1]
  exact reads_utcIso hnext

/-- The first lease of a worker goes on with the chain, or starts it. -/
theorem chain_firstLease {now next generation : ℤ} {sha : Option String}
    {leases : List ScheduleWorkerLease} (hchain : LeaseChain rt leases)
    (hnow : datetime now = .ok now) (hnext : datetime (now + secondsMicros c.leaseSeconds) = .ok next)
    (hsuccessor : successor rt leases.getLast? = .ok (sha, generation))
    (hchecked : (firstLease rt c now next sha generation).validate rt = .ok ()) :
    LeaseChain rt (leases ++ [firstLease rt c now next sha generation]) := by
  have htimes := times_firstLease hnow hnext hchecked
  cases hlast : leases.getLast? with
  | none =>
      rw [hlast] at hsuccessor
      cases hsuccessor
      rw [List.getLast?_eq_none_iff.mp hlast]
      exact leaseChain_singleton rfl rfl rfl ⟨now, now, htimes⟩
  | some last =>
      rw [hlast] at hsuccessor
      obtain ⟨digest, hdigest, hsuccessor⟩ := bind_eq_ok.mp hsuccessor
      obtain ⟨before, hbefore, hsuccessor⟩ := bind_eq_ok.mp hsuccessor
      have hpair : (some digest, before + 1) = (sha, generation) := Except.ok.inj hsuccessor
      have hbeforeEq : last.generation = before := by
        obtain ⟨_, -, h⟩ := bind_eq_ok.mp hbefore
        obtain ⟨_, -, h⟩ := bind_eq_ok.mp h
        exact Except.ok.inj h
      have hsucceeds : Succeeds rt last (firstLease rt c now next sha generation) := by
        refine ⟨?_, ?_, rfl⟩
        · show sha = some (last.leaseSha256 rt)
          rw [← (Prod.mk.inj hpair).1, eq_of_requireSha256 hdigest]
        · show generation = last.generation + 1
          rw [← (Prod.mk.inj hpair).2, hbeforeEq]
      exact hchain.append hlast (Or.inr hsucceeds) ⟨now, now, htimes⟩

/-- A call that has been given a lock makes a worker of it.
SOURCE: macro_schedule_worker.py:783-868 -/
theorem take_keepsSound {now : ℤ} {lock : ℕ} (hmoved : w.Moves rt none w₁)
    (hnow : datetime now = .ok now) (hfree : some (serviceKey rt c.serviceId) ∉ w.locks)
    (hlock : w₁.holds lock = some (serviceKey rt c.serviceId)) :
    KeepsSound rt none w (fun w' result => ∀ worker ∈ result.worker, worker.lock = lock ∧
      w'.Owns rt worker) (take rt c now lock) w₁ := by
  unfold take
  apply (keepsSound_of_asks (latestLease_asks c.serviceId) hmoved).bind
  rintro w₂ previous - ⟨rfl, hprevious⟩
  rw [ends_latestLease hprevious]
  apply Prog.holds_ofExcept_bind hmoved (fun _ _ => trivial)
  rintro ⟨sha, generation⟩ hsuccessor
  apply Prog.holds_ofExcept_bind hmoved (fun _ _ => trivial)
  intro next hnext
  apply Prog.holds_ofExcept_bind hmoved (fun _ _ => trivial)
  intro _ hchecked
  have hchain := chain_firstLease (hmoved.sound.leases c.serviceId) hnow hnext hsuccessor hchecked
  have howned : ∀ m, (none : Option ℕ) ≠ some m → w.holds m ≠ some (serviceKey rt c.serviceId) :=
    fun m _ hm => hfree (WorkerWorld.mem_of_holds hm).2
  apply (appendLease_keepsSound hmoved (firstLease rt c now next sha generation) hchain howned).bind
  rintro w₃ _ hmoved₃ rfl
  apply (keepsSound_of_asks (events_asks c.serviceId) hmoved₃).bind
  rintro w₄ events - ⟨rfl, -⟩
  apply (appendEvent_keepsSound hmoved₃ _).bind
  rintro w₅ _ hmoved₅ rfl
  refine ⟨hmoved₅, ?_⟩
  intro worker hworker
  cases hworker
  refine ⟨rfl, (WorkerWorld.mem_of_holds hlock).1, ?_, ?_⟩
  · intro key hkey
    exact Option.some.inj (hkey.symm.trans hlock)
  · intro _
    show ((w₂.append (.appendLease _)).leasesOf _).getLast? = _
    rw [WorkerWorld.leasesOf_append, if_pos rfl, List.getLast?_append]
    rfl

/-- An acquisition goes on with the chain, and the worker that it gives has a new lock and
the last lease.
SOURCE: macro_schedule_worker.py:721-868 -/
theorem acquire_keepsSound (hsound : w.Sound rt) :
    KeepsSound rt none w (fun w' result => ∀ worker ∈ result.worker,
      worker.lock = w.locks.length ∧ w'.Owns rt worker) (acquire rt c) w := by
  have hstart : w.Moves rt none w := hsound.moves
  unfold acquire
  apply Prog.holds_ofExcept_bind hstart (fun _ _ => trivial)
  intro now harguments
  have hnow : datetime now = .ok now := by
    obtain ⟨_, -, h⟩ := bind_eq_ok.mp harguments
    obtain ⟨_, -, h⟩ := bind_eq_ok.mp h
    obtain ⟨aware, haware, h⟩ := bind_eq_ok.mp h
    obtain ⟨_, _, h⟩ := ok_past_two h
    rw [← Except.ok.inj h]
    exact datetime_of_aware haware
  apply (keepsSound_of_asks (current_asks c.serviceId) hstart).bind
  rintro w₁ _ - ⟨rfl, -⟩
  refine ⟨hstart, ?_⟩
  intro reply w₂ heffect
  rcases reply with e | _ | lock
  · rw [show w₂ = w₁ from heffect]
    exact ⟨hstart, trivial⟩
  · rw [show w₂ = w₁ from heffect]
    show KeepsSound rt none w₁ _ (refuse rt c now) w₁
    unfold refuse
    apply (appendEvent_keepsSound hstart _).bind
    rintro w₃ _ hmoved -
    refine ⟨hmoved, ?_⟩
    intro worker hworker
    cases hworker
  · obtain ⟨hlock, hfree, hworld⟩ : lock = w₁.locks.length ∧ some (serviceKey rt c.serviceId) ∉ w₁.locks ∧
        w₂ = { w₁ with locks := w₁.locks ++ [some (serviceKey rt c.serviceId)] } := heffect
    rw [hworld, hlock]
    have hheld : ({ w₁ with locks := w₁.locks ++ [some (serviceKey rt c.serviceId)] } :
        WorkerWorld).holds w₁.locks.length = some (serviceKey rt c.serviceId) := by
      rw [WorkerWorld.holds_acquire, if_pos rfl]
    exact take_keepsSound (hstart.acquire hfree) hnow hfree hheld

end ScheduleWorkerManager

end PhiOS
