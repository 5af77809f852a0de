import Hcom4db.Names
import Hcom4db.ConnectFailure
import Hcom4db.Frames

/-!
# Hcom4db.DeadServer

The link from clients to servers. An entry of `g_memoryRegion` holds the server its region was registered
with, and `OckRpcClientDisconnect` hands that server to the transport; `OckRpcServerDestroy` does not look
at the clients.

A run creates and destroys servers and connects and disconnects clients. What the run does to the servers
is a run of `Names`, whose invariant says that a registered handle is live.

* `Linked`: the server of every region is registered.
* `clients_linked`: it is, in every state of a run that destroys no server a client still refers to.
-/

namespace Hcom4db

namespace DeadServers

open Runs
open Servers (created destroyed)

inductive Label where
  | server (l : Names.Label)
  | connect (a : ConnectArgs) (e : ConnectEnv)
  | disconnect (client : Addr) (ret : Int)

def step (s : Names.Sys) : Label → Names.Sys
  | .server l => Names.step s l
  | .connect a e => { s with w := (ockRpcClientConnectWithCfg s.w a e).1 }
  | .disconnect client ret => { s with w := ockRpcClientDisconnect s.w client ret }

/-- The handle `Service_Create` returns is not that of a live service. -/
def FreshService (s : Names.Sys) : Label → Prop
  | .server l => Names.FreshService s l
  | .connect _ _ => True
  | .disconnect _ _ => True

/-- No server is destroyed that a region was registered with. -/
def Unreferenced (s : Names.Sys) : Label → Prop
  | .server (.create _ _) => True
  | .server (.destroy server ret) => (serviceKey s.w server).isSome → ret = ockRpcOk →
      ∀ c info, s.w.gMemoryRegion.find c = some info → info.server ≠ server
  | .connect _ _ => True
  | .disconnect _ _ => True

/-- The server of every region is registered. -/
def Linked (w : World) : Prop :=
  ∀ c info, w.gMemoryRegion.find c = some info → ∃ name, w.gServiceMap.find name = some info.server

/-- The servers a disconnect passes to `Service_DestroyMemoryRegion`. -/
def Event.regionServer? : Event → Option Addr
  | .mrDestroy server _ => some server
  | _ => none

section Step

variable {s : Names.Sys} {w : World} {client : Addr} {ret : Int} {l : Label}

theorem linked_of_effect {w' : World} {cs ds : List Addr} (L : Linked w)
    (hr : w'.gMemoryRegion = w.gMemoryRegion) (heff : Names.Effect w.gServiceMap w'.gServiceMap cs ds)
    (hds : ∀ c info, w.gMemoryRegion.find c = some info → info.server ∉ ds) : Linked w' := by
  intro c info h
  rw [hr] at h
  obtain ⟨name, hname⟩ := L c info h
  exact ⟨name, heff.find hname (hds c info h)⟩

theorem linked_create (L : Linked s.w) (E : Names.Entries s.w.gServiceMap s.services) {a : CreateArgs}
    {e : CreateEnv} (hfresh : e.service ∉ s.services) :
    Linked (ockRpcServerCreateWithCfg s.w a e).1 := by
  obtain ⟨evs, ht, heff, -⟩ := Names.create_effect s.w a e
  have hd := Names.create_destroyed s.w a e
  rw [World.since_of_trace ht] at hd
  refine linked_of_effect L (create_frame s.w a e).gMemoryRegion heff ?_
  intro c info h hmem
  obtain ⟨name, hname⟩ := L c info h
  rw [hd _ hmem] at hname
  exact hfresh (E.live name _ hname)

theorem linked_destroy (L : Linked s.w) {server : Addr}
    (hno : (serviceKey s.w server).isSome → ret = ockRpcOk →
      ∀ c info, s.w.gMemoryRegion.find c = some info → info.server ≠ server) :
    Linked (ockRpcServerDestroy s.w server ret) := by
  cases hk : serviceKey s.w server with
  | none =>
    rw [serverDestroy_missing hk]
    exact L
  | some name =>
    obtain ⟨evs, ht, -, heff⟩ := Names.destroy_effect s.w server ret
    refine linked_of_effect L (destroy_frame s.w server ret).gMemoryRegion heff ?_
    rw [serverDestroy_trace hk] at ht
    have hevs := (List.append_cancel_right ht).symm
    have hde := destroyed_destroy server ret []
    rw [List.append_nil, ← hevs] at hde
    have hnil : destroyed [] = [] := rfl
    rw [hde, hnil]
    intro c info h
    split
    · rename_i hret
      simpa using hno (by rw [hk]; rfl) hret c info h
    · exact List.not_mem_nil

theorem getCurService_registered {m : ConfigMap} {service : Addr}
    (h : ockRpcGetCurService w m = some service) : ∃ name, w.gServiceMap.find name = some service := by
  simp only [ockRpcGetCurService, Option.ite_none_left_eq_some] at h
  exact ⟨_, h.2⟩

theorem linked_connect (L : Linked w) (a : ConnectArgs) (e : ConnectEnv) :
    Linked (ockRpcClientConnectWithCfg w a e).1 := by
  rcases connect_outcome w a e with ⟨evs, st, h, -, -⟩ | ⟨service, req, h⟩ |
    ⟨ip, m, service, flags, option, req, hcon, h⟩
  · rw [h]
    exact L
  · rw [h]
    exact L
  · rw [h]
    intro c info hc
    simp only [StdMap.find_insertNew] at hc
    split at hc
    · cases hf : w.gMemoryRegion.find e.channel with
      | none =>
        -- the new region belongs to the server that was looked up
        rw [hf] at hc
        cases hc
        exact getCurService_registered hcon.service
      | some info' =>
        rw [hf] at hc
        cases hc
        exact L _ _ hf
    · exact L c info hc

theorem linked_disconnect (L : Linked w) (client : Addr) (ret : Int) :
    Linked (ockRpcClientDisconnect w client ret) := by
  intro c info h
  rw [(Registry.disconnect_maps w client ret).2, StdMap.find_erase] at h
  rw [(disconnect_frame w client ret).gServiceMap]
  split at h
  · cases h
  · exact L c info h

/-- What is kept over a run: the servers of `Names`, and the link to them. -/
structure Inv (s : Names.Sys) : Prop where
  entries : Names.Entries s.w.gServiceMap s.services
  linked : Linked s.w

theorem inv_step (I : Inv s) (hfresh : FreshService s l) (hunref : Unreferenced s l) :
    Inv (step s l) := by
  cases l with
  | server l =>
    refine ⟨Names.entries_step I.entries hfresh, ?_⟩
    cases l with
    | create a e => exact linked_create I.linked I.entries hfresh
    | destroy server ret => exact linked_destroy I.linked hunref
  | connect a e =>
    refine ⟨?_, linked_connect I.linked a e⟩
    simp only [step, (connect_frame s.w a e).gServiceMap]
    exact I.entries
  | disconnect client ret =>
    refine ⟨?_, linked_disconnect I.linked client ret⟩
    simp only [step, (disconnect_frame s.w client ret).gServiceMap]
    exact I.entries

/-- A disconnect passes the server of the client's region on. -/
theorem disconnect_server {server : Addr}
    (h : server ∈ (w.since (ockRpcClientDisconnect w client ret)).filterMap Event.regionServer?) :
    ∃ info, w.gMemoryRegion.find client = some info ∧ info.server = server := by
  rw [World.since_of_trace (disconnect_trace w client ret)] at h
  unfold disconnectEvents at h
  cases hr : w.gMemoryRegion.find client with
  | none =>
    rw [hr] at h
    cases ha : w.gMemoryAllocator.find client with
    | none =>
      rw [ha] at h
      cases h
    | some a =>
      rw [ha] at h
      cases h
  | some info =>
    refine ⟨info, rfl, ?_⟩
    rw [hr] at h
    cases ha : w.gMemoryAllocator.find client with
    | none =>
      rw [ha] at h
      exact (List.mem_singleton.mp h).symm
    | some a =>
      rw [ha] at h
      exact (List.mem_singleton.mp h).symm

end Step

/-- **No client keeps a dead server** in a run that destroys no server a region was registered with: the
server of every region is registered, and a disconnect passes a live one to the transport. -/
theorem clients_linked {s : Names.Sys}
    (hrun : Reached (fun s l => FreshService s l ∧ Unreferenced s l) step {} s) :
    (∀ c info, s.w.gMemoryRegion.find c = some info →
      ∃ name, s.w.gServiceMap.find name = some info.server) ∧
    ∀ client ret, ∀ server ∈ (s.w.since (ockRpcClientDisconnect s.w client ret)).filterMap
      Event.regionServer?, server ∈ s.services := by
  have hstart : Inv {} := by
    refine ⟨Names.entries_start, ?_⟩
    intro c info h
    cases h
  have I : Inv s := hrun.invariant hstart fun s l I hl => inv_step I hl.1 hl.2
  refine ⟨I.linked, ?_⟩
  intro client ret server h
  obtain ⟨info, hinfo, rfl⟩ := disconnect_server h
  obtain ⟨name, hname⟩ := I.linked client info hinfo
  exact I.entries.live name _ hname

section Examples

/-- Server 40 is created under the default name and a client connects to it; server 41 of another name is
created and destroyed. -/
def oneClient : Names.Sys :=
  [.server (.create defaultServer { service := 40 }),
    .server (.create (Servers.namedServer "b" "8") { service := 41 }),
    .connect defaultConnect (connectEnv 70 80), .server (.destroy 41 0)].foldl step {}

theorem oneClient_reached :
    Reached (fun s l => FreshService s l ∧ Unreferenced s l) step {} oneClient := by
  refine Reached.refl.extend ⟨⟨List.not_mem_nil, trivial⟩, ⟨?_, trivial⟩, ⟨trivial, trivial⟩,
    ⟨trivial, ?_⟩, trivial⟩
  · show (41 : Addr) ∉ [40]
    decide
  · -- the only region is that of client 1, with server 40
    intro _ _ c info h
    have hregion : (((∅ : StdMap Addr OckRpcMrInfo).insertNew 1 ⟨80, ⟨5000, 7, 67108864⟩, 40⟩)).find c =
        some info := h
    rw [StdMap.find_insertNew] at hregion
    split at hregion
    · cases hregion
      decide
    · cases hregion

/-- The client is connected and its server is registered; its disconnect passes server 40 on, which is live,
unlike 41. -/
theorem clients_linked_one : (∃ info, oneClient.w.gMemoryRegion.find 1 = some info ∧
      ∃ name, oneClient.w.gServiceMap.find name = some info.server) ∧
    (oneClient.w.since (ockRpcClientDisconnect oneClient.w 1 0)).filterMap Event.regionServer? = [40] ∧
    40 ∈ oneClient.services ∧ 41 ∉ oneClient.services := by
  obtain ⟨hlinked, hlive⟩ := clients_linked oneClient_reached
  have hpassed : (oneClient.w.since (ockRpcClientDisconnect oneClient.w 1 0)).filterMap
      Event.regionServer? = [40] := rfl
  refine ⟨⟨⟨80, ⟨5000, 7, 67108864⟩, 40⟩, rfl, hlinked 1 _ rfl⟩, hpassed, ?_, ?_⟩
  · refine hlive 1 0 40 ?_
    rw [hpassed]
    exact List.mem_singleton_self 40
  · show (41 : Addr) ∉ [40]
    decide

/-- The server is destroyed before the client is disconnected: its handle stays in `g_memoryRegion` and is
passed to `Service_DestroyMemoryRegion`. -/
theorem dead_server_kept : ∃ s : Names.Sys, Reached FreshService step {} s ∧
    (∃ info, s.w.gMemoryRegion.find 1 = some info ∧ info.server = 40) ∧
    (∀ name, s.w.gServiceMap.find name ≠ some 40) ∧ 40 ∉ s.services ∧
    (s.w.since (ockRpcClientDisconnect s.w 1 0)).filterMap Event.regionServer? = [40] := by
  refine ⟨step oneClient (.server (.destroy 40 0)), ?_, ⟨⟨80, ⟨5000, 7, 67108864⟩, 40⟩, rfl, rfl⟩, ?_, ?_,
    rfl⟩
  · exact (oneClient_reached.mono fun _ _ h => h.1).tail trivial
  · intro name h
    cases h
  · exact List.not_mem_nil

end Examples

end DeadServers

end Hcom4db
