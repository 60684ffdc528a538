import Rsbtd.Engine.Frame
import Rsbtd.Transition.Pool

/-!
# What is registered under a uuid

Every entry the registry can hold is `entryOf k` for the torrent `k`, and the
call that adds torrent `k` works on that entry and on the initial record only.
With `Registry.Coherent` this makes the registry a set of torrents.
-/

namespace Rsbtd

open Transition

variable {s s' : Engine}

/-- `unwind_failed_add` ran. -/
def AddResult.failed : AddResult → Bool
  | .notSerialized | .shuttingDown | .io => true
  | _ => false

/-- The local variables of the call that adds torrent `k`. -/
def AddPc.About (k : Nat) : AddPc → Prop
  | .serialize entry | .release entry | .awaitAck entry | .check entry | .compensate entry
  | .compensateSend entry => entry = entryOf k
  | .reserve entry bytes | .enqueue entry bytes | .send entry bytes =>
    entry = entryOf k ∧ bytes = initialRecord
  | .unwind entry result | .unwindRegistry entry result | .unwindFind entry result =>
    entry = entryOf k ∧ result.failed = true
  | .unwindRemove torrent result => torrent = k ∧ result.failed = true
  | .restored | .awaitAdd | .readHandle | .removeVanished | .upsert | .done _ | .dropped => True

/-- The call has registered its torrent, and has not unregistered it since. -/
def AddPc.mayRegister : AddPc → Bool
  | .serialize _ | .reserve _ _ | .enqueue _ _ | .send _ _ | .release _ | .awaitAck _ | .check _
  | .compensate _ | .compensateSend _ | .unwind _ _ | .unwindRegistry _ _ | .done .ok
  | .dropped => true
  | _ => false

structure Engine.Registered (s : Engine) : Prop where
  coherent : s.registry.Coherent entryOf
  calls : ∀ (k : Nat) (pc : AddPc), s.adds[k]? = some pc → pc.About k

namespace Engine.Registered

theorem mono (registered : s.Registered) (registry : s'.registry.Coherent entryOf)
    (adds : s'.adds = s.adds) : s'.Registered where
  coherent := registry
  calls := adds ▸ registered.calls

/-- A step of the call that adds torrent `k`. -/
theorem call (registered : s.Registered) {k : Nat} {pc : AddPc}
    (registry : s'.registry.Coherent entryOf) (adds : s'.adds = s.adds.set k pc)
    (about : pc.About k) : s'.Registered where
  coherent := registry
  calls j now entry := by
    rcases get_set (adds ▸ entry) with ⟨rfl, rfl⟩ | ⟨_, old⟩
    · exact about
    · exact registered.calls j now old

theorem upsert (registered : s.Registered) (k : Nat) :
    (s.registry.upsert (entryOf k).id (entryOf k).token (entryOf k).uuid).1.Coherent entryOf :=
  registered.coherent.upsert distinct_entryOf k

theorem remove (registered : s.Registered) (k : Nat) :
    (s.registry.remove k).1.Coherent entryOf :=
  registered.coherent.remove distinct_entryOf k

theorem removeByToken (registered : s.Registered) (k : Nat) :
    s.registry.removeByToken (entryOf k).token = s.registry.remove k :=
  registered.coherent.removeByToken_eq distinct_entryOf k

theorem removeById (registered : s.Registered) (k : Nat) :
    s.registry.removeById (entryOf k).id = s.registry.remove k :=
  registered.coherent.removeById_eq distinct_entryOf k

theorem upsert_find (registered : s.Registered) (k j : Nat) :
    (s.registry.upsert (entryOf k).id (entryOf k).token (entryOf k).uuid).1.find j =
      if j = k then some (entryOf k) else s.registry.find j :=
  registered.coherent.upsert_find distinct_entryOf k j

end Engine.Registered

theorem PumpMove.registered (move : PumpMove s s') (registered : s.Registered) :
    s'.Registered := by
  cases move with
  | @removed k | @removedUnknown k =>
    refine registered.mono ?_ rfl
    show (s.registry.removeByToken (entryOf k).token).1.Coherent entryOf
    rw [registered.removeByToken]
    exact registered.remove k
  | upsert => exact registered.mono (registered.upsert _) rfl
  | dropped | droppedLoud | saveFailed | requestUndo | retryUndo =>
    exact registered.mono (by simpa using registered.coherent) (by simp)
  | _ => exact registered.mono registered.coherent rfl

/-- `find_torrent_by_token` finds a torrent under its own token only. -/
theorem Session.findTorrentByToken_entryOf {s : Session} {k torrent : Nat}
    (found : s.findTorrentByToken (entryOf k).token = some torrent) :
    torrent = k ∧ (s.torrents k).handle = true := by
  simp only [entryOf, Session.findTorrentByToken, Option.ite_none_right_eq_some,
    Option.some.injEq] at found
  exact ⟨found.2.symm, found.1⟩

theorem AddMove.registered {k : Nat} {ok : Bool} {pc : AddPc} (call : s.adds[k]? = some pc)
    (move : AddMove s k ok pc s') (registered : s.Registered) : s'.Registered := by
  have about := registered.calls k pc call
  have coherent := registered.coherent
  cases move with
  | upsert =>
    exact registered.call (registered.upsert k) rfl
      (registered.coherent.upsert_entry distinct_entryOf k)
  | serialize => exact registered.call coherent rfl ⟨about, rfl⟩
  | opened | reserve => exact registered.call coherent rfl about
  | shut | send => exact registered.call coherent rfl about.1
  | @release entry =>
    have unwinds : (AddPc.unwind entry .shuttingDown).About k := ⟨about, rfl⟩
    exact registered.call (by simpa using coherent) (by simp) unwinds
  | @unwindRegistry entry =>
    obtain rfl : entry = entryOf k := about.1
    refine registered.call ?_ rfl about
    show (s.registry.removeById (entryOf k).id).1.Coherent entryOf
    rw [registered.removeById]
    exact registered.remove k
  | @unwindFind entry result torrent ok isOpen live =>
    obtain rfl : entry = entryOf k := about.1
    exact registered.call coherent rfl ⟨(Session.findTorrentByToken_entryOf live).1, about.2⟩
  | notSerialized | notWritten => exact registered.call coherent rfl ⟨about, rfl⟩
  | durable | gone | compensate | unwind => exact registered.call coherent rfl about
  | _ => exact registered.call coherent rfl trivial

theorem Move.registered {a : Action} (move : Move s a s') (registered : s.Registered) :
    s'.Registered := by
  cases move with
  | pump move => exact move.registered registered
  | persister move =>
    exact registered.mono (move.frame.registry ▸ registered.coherent) move.frame.adds
  | add call move => exact move.registered call registered
  | task call move =>
    exact registered.mono (move.frame.registry ▸ registered.coherent) move.frame.adds
  | @startAdd accepted =>
    refine ⟨registered.coherent, fun k pc entry => ?_⟩
    rcases get_append entry with old | ⟨_, rfl⟩
    · exact registered.calls k pc old
    · cases accepted <;> trivial
  | dropAdd => exact registered.call registered.coherent rfl trivial
  | _ => exact registered.mono registered.coherent rfl

theorem coherent_restored (restored : Nat) :
    (Engine.restoredRegistry restored).Coherent entryOf := by
  induction restored with
  | zero => exact Registry.coherent_new
  | succ n ih => exact ih.upsert distinct_entryOf n

theorem restored_find (restored k : Nat) :
    (Engine.restoredRegistry restored).find k = if k < restored then some (entryOf k) else none := by
  induction restored with
  | zero => rfl
  | succ n ih =>
    have step := (coherent_restored n).upsert_find distinct_entryOf n k
    rw [Engine.restoredRegistry]
    refine step.trans ?_
    by_cases same : k = n
    · simp [same]
    · have : k < n + 1 ↔ k < n := by omega
      simp [same, ih, this]

theorem registered_run {ok : Engine → Action → Prop} {restored : Nat}
    (run : EngineRun ok restored s) : s.Registered := by
  refine run.invariant ⟨coherent_restored restored, fun k pc entry => ?_⟩
    fun _ _ _ _ registered _ stepped => (step_move stepped).2.registered registered
  have member := List.mem_of_getElem? entry
  rw [Engine.start] at member
  obtain rfl := List.eq_of_mem_replicate member
  trivial

end Rsbtd
