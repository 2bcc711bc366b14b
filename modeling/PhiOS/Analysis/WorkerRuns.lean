import PhiOS.Analysis.CalendarReads
import PhiOS.Analysis.WorkerLeases

/-!
# The leases of schedule workers

Along every sequence of calls the leases of a service are one chain, and no tick is recorded after the
end of its lease. `WorkerSystem.Inv` is the invariant: a worker whose lock is held has the last lease
of its service.
-/

set_option autoImplicit false

namespace PhiOS

open Interaction Calendar DecimalText

/-! ## Sequences of calls -/

/-- The files and the locks, and the workers that there are, each under the number of its lock. -/
structure WorkerSystem where
  world : WorkerWorld
  workers : ℕ → Option ScheduleWorkerLease

/-- A call, with the worker that is called. -/
inductive WorkerCall
  | acquire (arguments : WorkerAcquire)
  | renew (worker : ScheduleWorker) (renewedAt : DateTime)
  | tick (worker : ScheduleWorker) (tickAt : DateTime)
  | release (worker : ScheduleWorker) (releasedAt : DateTime)

namespace WorkerCall

/-- The worker that is called. -/
def worker? : WorkerCall → Option ScheduleWorker
  | acquire _ => none
  | renew worker _ => some worker
  | tick worker _ => some worker
  | release worker _ => some worker

/-- The program of a call; its value is the worker that the call has made or given a new lease. -/
def program (rt : WorkerRuntime) : WorkerCall → WorkerProg (Option ScheduleWorker)
  | acquire arguments =>
      (ScheduleWorkerManager.acquire rt arguments).bind fun result => .ret result.worker
  | renew worker renewedAt =>
      (worker.renew rt renewedAt).bind fun lease => .ret (some ⟨worker.lock, lease⟩)
  | tick worker tickAt => (worker.tick rt tickAt).bind fun _ => .ret none
  | release worker releasedAt => (worker.release rt releasedAt).bind fun _ => .ret none

/-- The call is no renewal that has stored its lease. -/
def Unstored (call : WorkerCall) (w w' : WorkerWorld) : Prop :=
  match call with
  | renew _ _ => w'.leases = w.leases
  | _ => True

end WorkerCall

namespace WorkerSystem

variable (s : WorkerSystem)

/-- The worker is one of the system. -/
def Has (worker : ScheduleWorker) : Prop := s.workers worker.lock = some worker.lease

/-- The system after a call has come back with a worker. -/
def put (w : WorkerWorld) : Option ScheduleWorker → WorkerSystem
  | none => ⟨w, s.workers⟩
  | some worker => ⟨w, Function.update s.workers worker.lock (some worker.lease)⟩

/-- The system after the process of a called worker has died. -/
def drop (w : WorkerWorld) : Option ScheduleWorker → WorkerSystem
  | none => ⟨w, s.workers⟩
  | some worker => ⟨w, Function.update s.workers worker.lock none⟩

end WorkerSystem

/-- The systems that sequences of calls come to, with any readings of the clock, from files without
leases and ticks. A call returns, or raises, or its process dies in it, whose lock is then released by
the system at some time. A renewal that has stored its lease and then raises is not followed here. -/
inductive WorkerRun (rt : WorkerRuntime) : WorkerSystem → Prop
  | start (events : List ScheduleWorkerLeaseEvent) :
      WorkerRun rt ⟨⟨[], events, [], []⟩, fun _ => none⟩
  | returned {s : WorkerSystem} (run : WorkerRun rt s) (call : WorkerCall)
      (hworker : ∀ worker ∈ call.worker?, s.Has worker) {result : Option ScheduleWorker}
      {w : WorkerWorld} (hends : (call.program rt).Ends WorkerOp.effect s.world (.ok result) w) :
      WorkerRun rt (s.put w result)
  | raised {s : WorkerSystem} (run : WorkerRun rt s) (call : WorkerCall)
      (hworker : ∀ worker ∈ call.worker?, s.Has worker) {e : PyError} {w : WorkerWorld}
      (hends : (call.program rt).Ends WorkerOp.effect s.world (.error e) w)
      (hunstored : call.Unstored s.world w) : WorkerRun rt ⟨w, s.workers⟩
  | died {s : WorkerSystem} (run : WorkerRun rt s) (call : WorkerCall)
      (hworker : ∀ worker ∈ call.worker?, s.Has worker) {t : List (Prog.Event WorkerOp.Reply)}
      {rest : WorkerProg (Option ScheduleWorker)} {w : WorkerWorld}
      (hsteps : Prog.Steps (call.program rt) t rest)
      (hcarries : Prog.Carries WorkerOp.effect s.world t w) : WorkerRun rt (s.drop w call.worker?)
  | closed {s : WorkerSystem} (run : WorkerRun rt s) (lock : ℕ) :
      WorkerRun rt ⟨{ s.world with locks := s.world.locks.set lock none },
        Function.update s.workers lock none⟩

/-- What every sequence of calls keeps. -/
structure WorkerSystem.Inv (rt : WorkerRuntime) (s : WorkerSystem) : Prop where
  sound : s.world.Sound rt
  owns : ∀ worker, s.Has worker → s.world.Owns rt worker

section Sequences

variable {rt : WorkerRuntime} {s : WorkerSystem} {w : WorkerWorld} {call : WorkerCall}

/-- What a call keeps at every point, and what it leaves of the worker it returns. -/
theorem WorkerSystem.Inv.keepsSound (h : s.Inv rt) (hworker : ∀ worker ∈ call.worker?, s.Has worker) :
    KeepsSound rt (call.worker?.map (·.lock)) s.world (fun w' result => ∀ worker ∈ result,
      (worker.lock = s.world.locks.length ∨ call.worker?.map (·.lock) = some worker.lock) ∧
        w'.Owns rt worker) (call.program rt) s.world := by
  cases call with
  | acquire arguments =>
      apply (ScheduleWorkerManager.acquire_keepsSound h.sound).bind
      intro w' result hmoved hresult
      refine ⟨hmoved, ?_⟩
      intro worker hmem
      obtain ⟨hlock, howns⟩ := hresult worker hmem
      exact ⟨Or.inl hlock, howns⟩
  | renew worker renewedAt =>
      apply (ScheduleWorker.renew_keepsSound h.sound (h.owns worker (hworker worker rfl)) renewedAt).bind
      intro w' lease hmoved howns
      refine ⟨hmoved, ?_⟩
      intro worker' hmem
      cases hmem
      exact ⟨Or.inr rfl, howns⟩
  | tick worker tickAt =>
      apply (ScheduleWorker.tick_keepsSound h.sound (h.owns worker (hworker worker rfl)) tickAt).bind
      intro w' _ hmoved _
      refine ⟨hmoved, ?_⟩
      intro worker' hmem
      cases hmem
  | release worker releasedAt =>
      apply (ScheduleWorker.release_keepsSound h.sound releasedAt).bind
      intro w' _ hmoved _
      refine ⟨hmoved, ?_⟩
      intro worker' hmem
      cases hmem

theorem WorkerWorld.Moves.owns {own : Option ℕ} {w w' : WorkerWorld} (h : w.Moves rt own w')
    {worker : ScheduleWorker} (hother : own ≠ some worker.lock) (howns : w.Owns rt worker) :
    w'.Owns rt worker := by
  have hlt := howns.known
  refine ⟨lt_of_lt_of_le hlt h.locks, fun hkey => howns.file (h.held hlt hkey), ?_⟩
  intro hheld
  obtain ⟨key, hkey⟩ := Option.isSome_iff_exists.mp hheld
  have hbefore := h.held hlt hkey
  rcases h.kept worker.lease.serviceId with hsame | hfree
  · rw [hsame]
    exact howns.last (Option.isSome_iff_exists.mpr ⟨key, hbefore⟩)
  · have hfile := howns.file hbefore
    rw [hfile] at hbefore
    exact absurd hbefore (hfree worker.lock hother)

theorem WorkerWorld.Moves.owns_of_leases {own : Option ℕ} {w w' : WorkerWorld}
    (h : w.Moves rt own w') (hleases : w'.leases = w.leases) {worker : ScheduleWorker}
    (howns : w.Owns rt worker) : w'.Owns rt worker := by
  have hlt := howns.known
  refine ⟨lt_of_lt_of_le hlt h.locks, fun hkey => howns.file (h.held hlt hkey), ?_⟩
  intro hheld
  obtain ⟨key, hkey⟩ := Option.isSome_iff_exists.mp hheld
  unfold WorkerWorld.leasesOf
  rw [hleases]
  exact howns.last (Option.isSome_iff_exists.mpr ⟨key, h.held hlt hkey⟩)

/-- An operation that stores no lease. -/
def WorkerOp.StoresNoLease : WorkerOp → Prop
  | .appendLease _ => False
  | _ => True

/-- It leaves the leases as they are. -/
theorem WorkerOp.leases_of_storesNoLease {o : WorkerOp} {r : o.Reply} {w w' : WorkerWorld}
    (ho : o.StoresNoLease) (heffect : o.effect w r w') : w'.leases = w.leases := by
  by_cases hasks : o.Asks
  · rw [WorkerOp.same_of_asks hasks heffect]
  · cases o with
    | appendLease lease => exact ho.elim
    | releaseLock lock => rw [show w' = _ from heffect]
    | acquireLock key =>
        rcases r with e | _ | lock
        · rw [show w' = w from heffect]
        · rw [show w' = w from heffect]
        · rw [heffect.2.2]
    | appendEvent event =>
        cases r with
        | ok u => rw [show w' = _ from heffect]; rfl
        | error e =>
            rcases (heffect : w' = w ∨ w' = w.append (.appendEvent event)) with rfl | rfl <;> rfl
    | appendTickReceipt receipt =>
        cases r with
        | ok u => rw [show w' = _ from heffect]; rfl
        | error e =>
            rcases (heffect : w' = w ∨ w' = w.append (.appendTickReceipt receipt)) with rfl | rfl <;> rfl
    | current serviceId => exact absurd trivial hasks
    | poll serviceId through => exact absurd trivial hasks
    | lockHeld lock => exact absurd trivial hasks
    | latestLease serviceId => exact absurd trivial hasks
    | events serviceId => exact absurd trivial hasks
    | tickReceipts serviceId => exact absurd trivial hasks

theorem storesNoLease_of_asks {α : Type} {p : WorkerProg α} (hp : p.Issues WorkerOp.Asks) :
    p.Issues WorkerOp.StoresNoLease := by
  apply hp.mono
  intro o ho
  cases o with
  | appendLease lease => exact ho
  | _ => exact trivial

theorem appendEvent_storesNoLease (event : ScheduleWorkerLeaseEvent) :
    (WorkerProg.appendEvent rt event).Issues WorkerOp.StoresNoLease :=
  (Prog.issues_ofExcept _).bind fun _ => issues_ask trivial

theorem appendTickReceipt_storesNoLease (tick : ScheduleWorkerTickReceipt) :
    (WorkerProg.appendTickReceipt rt tick).Issues WorkerOp.StoresNoLease :=
  (Prog.issues_ofExcept _).bind fun _ => issues_ask trivial

/-- A tick stores no lease. -/
theorem tick_storesNoLease (worker : ScheduleWorker) (tickAt : DateTime) :
    (worker.tick rt tickAt).Issues WorkerOp.StoresNoLease := by
  unfold ScheduleWorker.tick
  apply (Prog.issues_ofExcept _).bind
  intro now
  apply (storesNoLease_of_asks (ScheduleWorker.requireLiveLock_asks worker)).bind
  intro _
  apply (Prog.issues_ofExcept _).bind
  intro validUntil
  apply (Prog.issues_ofExcept _).bind
  intro _
  unfold ScheduleWorker.performTick
  apply (storesNoLease_of_asks (current_asks worker.lease.serviceId)).bind
  intro before
  apply (Prog.issues_ofExcept _).bind
  intro cursor
  apply (storesNoLease_of_asks (nextCycleIndex_asks worker.lease.serviceId)).bind
  intro cycleIndex
  split
  · exact (appendTickReceipt_storesNoLease _).bind fun _ => Prog.issues_ret _
  · apply (Prog.issues_ofExcept _).bind
    intro limit
    apply (storesNoLease_of_asks (poll_asks worker.lease.serviceId _)).bind
    intro outcome
    exact (appendTickReceipt_storesNoLease _).bind fun _ => Prog.issues_ret _

theorem release_storesNoLease (worker : ScheduleWorker) (releasedAt : DateTime) :
    (worker.release rt releasedAt).Issues WorkerOp.StoresNoLease := by
  unfold ScheduleWorker.release
  apply (Prog.issues_ofExcept _).bind
  intro now
  apply (storesNoLease_of_asks (lockHeld_asks worker.lock)).bind
  intro held
  show (if _ then _ else _ : WorkerProg Unit).Issues _
  split
  · exact (appendEvent_storesNoLease _).bind fun _ => issues_ask trivial
  · exact Prog.issues_ret _

theorem leases_of_ends {α : Type} {p : WorkerProg α} {x : Except PyError α} {w w' : WorkerWorld}
    (hp : p.Issues WorkerOp.StoresNoLease) (hends : p.Ends WorkerOp.effect w x w') :
    w'.leases = w.leases := by
  obtain ⟨t, hsteps, hcarries⟩ := Prog.ends_iff.mp hends
  refine ((hp.holds (I := fun w' => w'.leases = w.leases) ?_ rfl).sound hsteps hcarries).start
  intro w₁ o r w₂ ho hsame heffect
  exact (WorkerOp.leases_of_storesNoLease ho heffect).trans hsame

/-- A call of a worker that is over, and has not come back with a lease, has left the leases
as they were. -/
theorem WorkerCall.leases_of_unstored {x : Except PyError (Option ScheduleWorker)} {w w' : WorkerWorld}
    (hends : (call.program rt).Ends WorkerOp.effect w x w') (hunstored : call.Unstored w w')
    (hworker : call.worker? ≠ none) : w'.leases = w.leases := by
  cases call with
  | acquire arguments => exact absurd rfl hworker
  | renew worker renewedAt => exact hunstored
  | tick worker tickAt =>
      exact leases_of_ends ((tick_storesNoLease worker tickAt).bind fun _ => Prog.issues_ret _) hends
  | release worker releasedAt =>
      exact leases_of_ends ((release_storesNoLease worker releasedAt).bind fun _ => Prog.issues_ret _) hends

/-- The workers after a call that has not come back with a lease. -/
theorem WorkerSystem.Inv.unstored (h : s.Inv rt) (hworker : ∀ worker ∈ call.worker?, s.Has worker)
    {x : Except PyError (Option ScheduleWorker)}
    (hends : (call.program rt).Ends WorkerOp.effect s.world x w) (hunstored : call.Unstored s.world w) :
    WorkerSystem.Inv rt ⟨w, s.workers⟩ := by
  obtain ⟨t, hsteps, hcarries⟩ := Prog.ends_iff.mp hends
  have hmoved := ((h.keepsSound hworker).sound hsteps hcarries).start
  refine ⟨hmoved.sound, ?_⟩
  intro worker hhas
  have howns := h.owns worker hhas
  by_cases hown : call.worker?.map (·.lock) = some worker.lock
  · have hcalled : call.worker? ≠ none := by
      intro hnone
      rw [hnone] at hown
      cases hown
    exact hmoved.owns_of_leases (WorkerCall.leases_of_unstored hends hunstored hcalled) howns
  · exact hmoved.owns hown howns

/-- A call that has returned. -/
theorem WorkerSystem.Inv.returned (h : s.Inv rt) (hworker : ∀ worker ∈ call.worker?, s.Has worker)
    {result : Option ScheduleWorker}
    (hends : (call.program rt).Ends WorkerOp.effect s.world (.ok result) w) :
    (s.put w result).Inv rt := by
  obtain ⟨hmoved, hresult⟩ := (h.keepsSound hworker).ends hends
  cases result with
  | none =>
      apply h.unstored hworker hends
      cases call with
      | renew worker renewedAt =>
          obtain ⟨lease, w₁, -, hlast⟩ := Prog.ends_bind hends
          cases (Prog.ends_ret.mp hlast).1
      | _ => exact trivial
  | some made =>
      obtain ⟨hlock, hmade⟩ := hresult made rfl
      refine ⟨hmoved.sound, ?_⟩
      intro worker hhas
      unfold WorkerSystem.Has WorkerSystem.put at hhas
      by_cases hsame : worker.lock = made.lock
      · rw [hsame] at hhas
        have hlease : made.lease = worker.lease := by simpa using hhas
        have heq : worker = made := by
          cases worker
          cases made
          simp_all
        rw [heq]
        exact hmade
      · have hbefore : s.Has worker := by simpa [WorkerSystem.Has, hsame] using hhas
        apply hmoved.owns _ (h.owns worker hbefore)
        -- another worker is called, or none is and the lock is new
        intro hown
        rcases hlock with hnew | hcalled
        · cases call with
          | acquire arguments => cases hown
          | renew called renewedAt =>
              obtain ⟨lease, w₁, -, hlast⟩ := Prog.ends_bind hends
              cases (Prog.ends_ret.mp hlast).1
              exact hsame (Option.some.inj hown).symm
          | tick called tickAt =>
              obtain ⟨receipt, w₁, -, hlast⟩ := Prog.ends_bind hends
              cases (Prog.ends_ret.mp hlast).1
          | release called releasedAt =>
              obtain ⟨_, w₁, -, hlast⟩ := Prog.ends_bind hends
              cases (Prog.ends_ret.mp hlast).1
        · rw [hown] at hcalled
          exact hsame (Option.some.inj hcalled)

/-- A called worker whose process has died. -/
theorem WorkerSystem.Inv.died (h : s.Inv rt) (hworker : ∀ worker ∈ call.worker?, s.Has worker)
    {t : List (Prog.Event WorkerOp.Reply)} {rest : WorkerProg (Option ScheduleWorker)}
    (hsteps : Prog.Steps (call.program rt) t rest)
    (hcarries : Prog.Carries WorkerOp.effect s.world t w) : (s.drop w call.worker?).Inv rt := by
  have hmoved := ((h.keepsSound hworker).sound hsteps hcarries).start
  cases hcalled : call.worker? with
  | none =>
      rw [hcalled] at hmoved
      refine ⟨hmoved.sound, ?_⟩
      intro worker hhas
      exact hmoved.owns nofun (h.owns worker hhas)
  | some called =>
      rw [hcalled] at hmoved
      refine ⟨hmoved.sound, ?_⟩
      intro worker hhas
      unfold WorkerSystem.Has WorkerSystem.drop at hhas
      by_cases hsame : worker.lock = called.lock
      · rw [hsame] at hhas
        simp at hhas
      · have hbefore : s.Has worker := by simpa [WorkerSystem.Has, hsame] using hhas
        apply hmoved.owns _ (h.owns worker hbefore)
        intro hown
        exact hsame (Option.some.inj hown).symm

theorem WorkerSystem.Inv.closed (h : s.Inv rt) (lock : ℕ) :
    WorkerSystem.Inv rt ⟨{ s.world with locks := s.world.locks.set lock none },
      Function.update s.workers lock none⟩ := by
  have hstart : s.world.Moves rt (some lock) s.world := h.sound.moves
  have hmoved := hstart.release lock
  refine ⟨hmoved.sound, ?_⟩
  intro worker hhas
  unfold WorkerSystem.Has at hhas
  by_cases hsame : worker.lock = lock
  · rw [hsame] at hhas
    simp at hhas
  · have hbefore : s.Has worker := by simpa [WorkerSystem.Has, hsame] using hhas
    apply hmoved.owns _ (h.owns worker hbefore)
    intro hown
    exact hsame (Option.some.inj hown).symm

theorem WorkerRun.inv (h : WorkerRun rt s) : s.Inv rt := by
  induction h with
  | start events =>
      refine ⟨⟨?_, ?_, ?_⟩, ?_⟩
      · exact fun serviceId => ⟨nofun, List.isChain_nil, nofun⟩
      · intro tick hmem
        cases hmem
      · intro m n key hm
        exact absurd (WorkerWorld.mem_of_holds hm).1 (Nat.not_lt_zero m)
      · intro worker hhas
        cases hhas
  | returned run call hworker hends ih => exact ih.returned hworker hends
  | raised run call hworker hends hunstored ih => exact ih.unstored hworker hends hunstored
  | died run call hworker hsteps hcarries ih => exact ih.died hworker hsteps hcarries
  | closed run lock ih => exact ih.closed lock

/-- MAIN: **leases follow one another.** Along every sequence of acquire, renew, tick and release
calls, with any readings of the clock, the leases of a service are one chain that names the lease
before in each: within a generation the indices are 0, 1, 2, …, a renewal is not before the
acquisition and not after the end of the lease before, and lasts as long; every generation is one more
than the last one stored; and no tick is recorded after the end of its lease.
SOURCE: macro_schedule_worker.py:552-702, 721-868 -/
theorem WorkerRun.leases_follow (h : WorkerRun rt s) :
    (∀ serviceId, LeaseChain rt (s.world.leasesOf serviceId) ∧
      ∀ generation, (ofGeneration (s.world.leasesOf serviceId) generation).map (·.renewalIndex) =
        (List.range (ofGeneration (s.world.leasesOf serviceId) generation).length).map (↑)) ∧
    ∀ tick ∈ s.world.ticks, ∃ lease ∈ s.world.leases, Covers rt lease tick := by
  have hsound := h.inv.sound
  refine ⟨?_, hsound.ticks⟩
  intro serviceId
  exact ⟨hsound.leases serviceId, (hsound.leases serviceId).indices.2⟩

end Sequences

/-! ## A clock that steps back -/

section SteppedBack

/-- Within a generation the leases of a service move forward. -/
def LeasesForward (rt : WorkerRuntime) (w : WorkerWorld) : Prop :=
  ∀ serviceId, (w.leasesOf serviceId).IsChain fun a b => a.generation = b.generation →
    ∀ {renewed renewed' validUntil validUntil' : ℤ}, rt.Reads a.renewedAt renewed →
      rt.Reads b.renewedAt renewed' → rt.Reads a.validUntil validUntil →
      rt.Reads b.validUntil validUntil' → renewed ≤ renewed' ∧ validUntil ≤ validUntil'

/-- No tick is recorded at an instant that is outside its lease. -/
def TicksWithin (rt : WorkerRuntime) (w : WorkerWorld) : Prop :=
  ∀ tick ∈ w.ticks, ∃ lease ∈ w.leases, tick.leaseSha256 = lease.leaseSha256 rt ∧
    ∃ renewed t validUntil, rt.Reads lease.renewedAt renewed ∧ rt.Reads tick.tickAt t ∧
      rt.Reads lease.validUntil validUntil ∧ renewed ≤ t ∧ t ≤ validUntil

/-- A digest, of 64 digits. -/
def zeroDigest : String := "0000000000000000000000000000000000000000000000000000000000000000"

/-- `datetime.fromisoformat` of a text that `isoformat` has printed in UTC. -/
def instantRead (text : String) : Option DateTime := (instantFromIso text.toList).map .aware

theorem instantRead_utcIso {t : ℤ} (ht : datetime t = .ok t) :
    instantRead (replaceZulu (utcIso t)) = some (.aware t) := by
  obtain ⟨-, hlow, hhigh⟩ := datetime_eq_ok.mp ht
  unfold instantRead
  rw [instantFromIso_utcIso hlow hhigh]
  rfl

/-- The standard library, as far as the printed instants go. -/
def clockIso : Iso8601 := ⟨instantRead, fun t => isoAware t 0⟩

theorem clockIso_utcIso {t : ℤ} (ht : datetime t = .ok t) :
    clockIso.fromisoformat (replaceZulu (utcIso t)) = some (.aware t) := by
  have hiso : clockIso.fromisoformat = instantRead := rfl
  rw [hiso]
  exact instantRead_utcIso ht

/-- The workers with that library. -/
def clockRuntime : WorkerRuntime where
  iso := clockIso
  reads := clockIso_utcIso
  sha256 := fun _ => zeroDigest

/-- The first instant of 2025. -/
def newYear : ℤ := 63871286400 * 1000000

/-- Files and locks that work; the service, which has been polled up to the minute before, commits
what it is polled for. -/
def WorkerOp.perform (w : WorkerWorld) : (o : WorkerOp) → o.Reply × WorkerWorld
  | .current _ => (.ok ⟨utcIso (newYear - secondsMicros 60), zeroDigest⟩, w)
  | .poll _ through => (.ok ⟨true, zeroDigest, utcIso through, zeroDigest⟩, w)
  | .acquireLock key =>
      if some key ∈ w.locks then (.ok none, w)
      else (.ok (some w.locks.length), { w with locks := w.locks ++ [some key] })
  | .lockHeld lock => ((w.holds lock).isSome, w)
  | .releaseLock lock => (.ok (), { w with locks := w.locks.set lock none })
  | .latestLease serviceId => (.ok (w.leasesOf serviceId).getLast?, w)
  | .appendLease lease => (.ok (), w.append (.appendLease lease))
  | .events serviceId => (.ok (w.eventsOf serviceId), w)
  | .appendEvent event => (.ok (), w.append (.appendEvent event))
  | .tickReceipts serviceId => (.ok (w.ticksOf serviceId), w)
  | .appendTickReceipt receipt => (.ok (), w.append (.appendTickReceipt receipt))

/-- They do what the operations do. -/
theorem WorkerOp.effect_perform (w : WorkerWorld) (o : WorkerOp) :
    o.effect w (o.perform w).1 (o.perform w).2 := by
  cases o with
  | acquireLock key =>
      by_cases hheld : some key ∈ w.locks
      · have hperform : (acquireLock key).perform w = (.ok none, w) := if_pos hheld
        rw [hperform]
        exact rfl
      · have hperform : (acquireLock key).perform w = (.ok (some w.locks.length),
            { w with locks := w.locks ++ [some key] }) := if_neg hheld
        rw [hperform]
        exact ⟨rfl, hheld, rfl⟩
  | lockHeld lock => exact ⟨rfl, rfl⟩
  | latestLease serviceId => exact ⟨rfl, rfl⟩
  | events serviceId => exact ⟨rfl, rfl⟩
  | tickReceipts serviceId => exact ⟨rfl, rfl⟩
  | _ => exact rfl

/-- What a call gives there, if it returns, and the files and the locks that it leaves. -/
def WorkerCall.perform (call : WorkerCall) (w : WorkerWorld) :
    Option (Option ScheduleWorker × WorkerWorld) :=
  match (call.program clockRuntime).run (fun w o => o.perform w) w with
  | (.ok result, w') => some (result, w')
  | (.error _, _) => none

theorem WorkerRun.perform {s : WorkerSystem} (run : WorkerRun clockRuntime s) (call : WorkerCall)
    (hworker : ∀ worker ∈ call.worker?, s.Has worker) {result : Option ScheduleWorker}
    {w : WorkerWorld} (hperform : call.perform s.world = some (result, w)) :
    WorkerRun clockRuntime (s.put w result) := by
  unfold WorkerCall.perform at hperform
  split at hperform
  · rename_i result' w' hrun
    cases hperform
    obtain ⟨t, hsteps, hcarries⟩ := Prog.exists_steps_run WorkerOp.effect_perform
      (call.program clockRuntime) s.world
    rw [hrun] at hsteps hcarries
    exact run.returned call hworker (Prog.ends_iff.mpr ⟨t, hsteps, hcarries⟩)
  · cases hperform

/-- A worker for one minute at a time. -/
def minuteWorker : WorkerAcquire := ⟨"s", "w", .aware newYear, 60, 60⟩

/-- Its first lease. -/
def minuteLease : ScheduleWorkerLease :=
  ScheduleWorkerManager.firstLease clockRuntime minuteWorker newYear
    (newYear + secondsMicros 60) none 1

/-- The lease after a renewal, twenty seconds later. -/
def lateLease : ScheduleWorkerLease :=
  (⟨0, minuteLease⟩ : ScheduleWorker).renewedLease clockRuntime (newYear + secondsMicros 20)
    (newYear + secondsMicros 80)

/-- The lease after another one, for which the clock is ten seconds back. -/
def earlyLease : ScheduleWorkerLease :=
  (⟨0, lateLease⟩ : ScheduleWorker).renewedLease clockRuntime (newYear + secondsMicros 10)
    (newYear + secondsMicros 70)

/-- A tick under the first lease, for which the clock is before it. -/
def earlyTick : ScheduleWorkerTickReceipt :=
  (⟨0, minuteLease⟩ : ScheduleWorker).polledReceipt clockRuntime (newYear - secondsMicros 5) 0
    (newYear - secondsMicros 5) ⟨utcIso (newYear - secondsMicros 60), zeroDigest⟩
    ⟨true, zeroDigest, utcIso (newYear - secondsMicros 5), zeroDigest⟩

/-- The event of a renewal. -/
def renewalEvent (before after : ScheduleWorkerLease) (now : ℤ) : ScheduleWorkerLeaseEvent :=
  eventFor clockRuntime .renewed "worker_lease_renewed" after now (some (before.leaseSha256 clockRuntime))

/-- The files and the locks after the acquisition. -/
def acquiredWorld : WorkerWorld where
  leases := [minuteLease]
  events := [eventFor clockRuntime .acquired "worker_ownership_acquired" minuteLease newYear none]
  ticks := []
  locks := [some (serviceKey clockRuntime "s")]

/-- The same after the tick. -/
def tickedWorld : WorkerWorld := acquiredWorld.append (.appendTickReceipt earlyTick)

/-- The same after the first renewal. -/
def lateWorld : WorkerWorld :=
  (tickedWorld.append (.appendLease lateLease)).append
    (.appendEvent (renewalEvent minuteLease lateLease (newYear + secondsMicros 20)))

/-- The same after the second one. -/
def earlyWorld : WorkerWorld :=
  (lateWorld.append (.appendLease earlyLease)).append
    (.appendEvent (renewalEvent lateLease earlyLease (newYear + secondsMicros 10)))

/-- No files yet, and no workers. -/
def noWorkers : WorkerSystem := ⟨⟨[], [], [], []⟩, fun _ => none⟩

/-- The system after the four calls. -/
def steppedBack : WorkerSystem :=
  (((noWorkers.put acquiredWorld (some ⟨0, minuteLease⟩)).put tickedWorld none).put lateWorld
    (some ⟨0, lateLease⟩)).put earlyWorld (some ⟨0, earlyLease⟩)

theorem perform_acquire : (WorkerCall.acquire minuteWorker).perform noWorkers.world =
    some (some ⟨0, minuteLease⟩, acquiredWorld) := by decide +kernel

theorem perform_tick : (WorkerCall.tick ⟨0, minuteLease⟩ (.aware (newYear - secondsMicros 5))).perform
    acquiredWorld = some (none, tickedWorld) := by decide +kernel

theorem perform_late : (WorkerCall.renew ⟨0, minuteLease⟩ (.aware (newYear + secondsMicros 20))).perform
    tickedWorld = some (some ⟨0, lateLease⟩, lateWorld) := by decide +kernel

theorem perform_early : (WorkerCall.renew ⟨0, lateLease⟩ (.aware (newYear + secondsMicros 10))).perform
    lateWorld = some (some ⟨0, earlyLease⟩, earlyWorld) := by decide +kernel

theorem steppedBack_run : WorkerRun clockRuntime steppedBack := by
  have hstart : WorkerRun clockRuntime noWorkers := .start []
  have hacquired := hstart.perform (.acquire minuteWorker) nofun perform_acquire
  have hticked := hacquired.perform (.tick ⟨0, minuteLease⟩ (.aware (newYear - secondsMicros 5)))
    (by rintro _ ⟨⟩; rfl) perform_tick
  have hlate := hticked.perform (.renew ⟨0, minuteLease⟩ (.aware (newYear + secondsMicros 20)))
    (by rintro _ ⟨⟩; rfl) perform_late
  exact hlate.perform (.renew ⟨0, lateLease⟩ (.aware (newYear + secondsMicros 10)))
    (by rintro _ ⟨⟩; rfl) perform_early

theorem reads_near {t : ℤ} (hlow : newYear - secondsMicros 5 ≤ t)
    (hhigh : t ≤ newYear + secondsMicros 80) : clockRuntime.Reads (utcIso t) t := by
  apply clockRuntime.reads
  apply datetime_eq_ok.mpr
  unfold newYear secondsMicros at *
  unfold maxDay dayMicros
  omega

theorem reads_minuteLease : clockRuntime.Reads minuteLease.renewedAt newYear :=
  reads_near (by decide) (by decide)

theorem reads_lateLease : clockRuntime.Reads lateLease.renewedAt (newYear + secondsMicros 20) ∧
    clockRuntime.Reads lateLease.validUntil (newYear + secondsMicros 80) :=
  ⟨reads_near (by decide) (by decide), reads_near (by decide) (by decide)⟩

theorem reads_earlyLease : clockRuntime.Reads earlyLease.renewedAt (newYear + secondsMicros 10) ∧
    clockRuntime.Reads earlyLease.validUntil (newYear + secondsMicros 70) :=
  ⟨reads_near (by decide) (by decide), reads_near (by decide) (by decide)⟩

theorem reads_earlyTick : clockRuntime.Reads earlyTick.tickAt (newYear - secondsMicros 5) :=
  reads_near (by decide) (by decide)

/-- COUNTEREXAMPLE: A worker that acquires a service, ticks with a clock that is five seconds before
that, and is then renewed twice, the second time at the earlier instant: both bounds of the lease step
back, and the tick is before every lease on file. -/
theorem not_leases_forward : WorkerRun clockRuntime steppedBack ∧
    ¬ LeasesForward clockRuntime steppedBack.world ∧ ¬ TicksWithin clockRuntime steppedBack.world := by
  refine ⟨steppedBack_run, ?_, ?_⟩
  · intro hforward
    have hleases : steppedBack.world.leasesOf "s" = [minuteLease, lateLease, earlyLease] := by
      decide +kernel
    have hchain := hforward "s"
    rw [hleases] at hchain
    have hpair := (List.isChain_cons_cons.mp (List.isChain_cons_cons.mp hchain).2).1
    have hle := hpair rfl reads_lateLease.1 reads_earlyLease.1 reads_lateLease.2 reads_earlyLease.2
    exact absurd hle.1 (by decide)
  · intro hwithin
    obtain ⟨lease, hmem, -, renewed, t, _, hrenewed, ht, -, hle, -⟩ :=
      hwithin earlyTick (List.mem_singleton_self earlyTick)
    have hat : t = newYear - secondsMicros 5 := ht.unique reads_earlyTick
    have hafter : newYear ≤ renewed := by
      have hcases : lease = minuteLease ∨ lease = lateLease ∨ lease = earlyLease := by
        have hlisted : lease ∈ [minuteLease, lateLease, earlyLease] := hmem
        simpa only [List.mem_cons, List.not_mem_nil, or_false] using hlisted
      rcases hcases with rfl | rfl | rfl
      · rw [hrenewed.unique reads_minuteLease]
      · rw [hrenewed.unique reads_lateLease.1]
        decide
      · rw [hrenewed.unique reads_earlyLease.1]
        decide
    unfold secondsMicros at hat
    omega

/-- WITNESS: What they leave is a chain all the same. -/
theorem steppedBack_follows :
    (∀ serviceId, LeaseChain clockRuntime (steppedBack.world.leasesOf serviceId) ∧
      ∀ generation,
        (ofGeneration (steppedBack.world.leasesOf serviceId) generation).map (·.renewalIndex) =
          (List.range (ofGeneration (steppedBack.world.leasesOf serviceId) generation).length).map
            (↑)) ∧
    ∀ tick ∈ steppedBack.world.ticks, ∃ lease ∈ steppedBack.world.leases,
      Covers clockRuntime lease tick :=
  WorkerRun.leases_follow steppedBack_run

/-! ## One live worker -/

theorem holds_of_lost {worker : ScheduleWorker} {w : WorkerWorld} {α : Type} {x : Except PyError ℤ}
    {f : ℤ → WorkerProg α} (hlost : w.holds worker.lock = none) :
    ((Prog.ofExcept x).bind fun now => worker.requireLiveLock.bind fun _ => f now).Holds
      WorkerOp.effect (w = ·) (fun _ _ => False) (fun _ _ => True) w := by
  apply Prog.holds_ofExcept_bind rfl (fun _ _ => trivial)
  intro now _
  apply Prog.Holds.bind (Q := fun _ _ => False)
  · unfold ScheduleWorker.requireLiveLock
    apply Prog.holds_call_bind rfl
    rintro held w₁ ⟨rfl, hheld⟩
    rw [hheld, hlost]
    exact ⟨rfl, trivial⟩
  · intro _ _ _ hfalse
    exact hfalse.elim

end SteppedBack

end PhiOS
