import Hcom4db.Types

/-!
# Hcom4db.Dlopen

Loading the transport library, as `hcom4db_dlopen_hcom.cpp` does it: `InitOckRpcDl` opens the library and
resolves the entries of `g_hcomFunc` in ten functions, each of which stops at the first symbol that is
missing.

* `entry_loaded_iff`: an entry is there after a load when its symbol and those before it in its function
  are exported.
* `init_ok_iff`: the load succeeds whenever the library can be opened, whatever it exports.
* `init_all_or_nothing_iff`: it is all or nothing only when the library is not opened.
-/

namespace Hcom4db

namespace Dlopen

/-- The entries of `HcomFunc`. Each has one wrapper in the file, which calls it unless it is null. -/
inductive HcomFunc where
  | getChannel | getContextType | getResult | getRspCtx | getOpInfo | getMessageData
  | getMessageDataLen | contextClone | contextDeClone | getRndvChannel | getRndvCtxType | getRndvOpInfo
  | getRndvMessage | rndvFreeContext | rndvReply | setUpCtx | getUpCtx | postSend | postResponse
  | postSendRaw | postResponseRaw | postSendRawSgl | postResponseRawSgl | syncCall | asyncCall
  | syncCallRaw | asyncCallRaw | syncCallRawSgl | asyncCallRawSgl | syncRndvCall | asyncRndvCall
  | syncRndvSglCall | asyncRndvSglCall | read | readSgl | write | writeSgl | channelClose
  | setOneSideTimeout | setTwoSideTimeout | setExternalLogger | serviceCreate | setOobIpAndPort
  | getOobIpAndPort | serviceStart | serviceStop | serviceDestroy | channelConnect | channelDeRefer
  | channelDestroy | registerMemoryRegion | registerAssignMemoryRegion | getMemoryRegionInfo
  | destroyMemoryRegion | registerChannelHandler | registerOpHandler | registerIdleHandler
  | registerAllocateHandler | registerFreeHandler | registerRndvOpHandler | registerTLSCb
  | memoryAllocatorCreate | memoryAllocatorDestroy | memoryAllocatorSetMrKey | memoryAllocatorMemOffset
  | memoryAllocatorFreeSize | memoryAllocatorAllocate | memoryAllocatorFree
  deriving DecidableEq

/-- A library that `dlopen` can open. -/
structure Image where
  handle : Addr
  handle_ne : handle ≠ 0
  /-- `dlsym`: the address of an exported function, 0 for a symbol that is not exported. -/
  dlsym : String → Addr

/-- The globals of `hcom4db_dlopen_hcom.cpp`; nothing is loaded at the start. -/
structure DlState where
  gHcomDl : Addr := 0
  gHcomFunc : HcomFunc → Addr := fun _ => 0

/-- `Hcom4dbLoadSymbol(g_hcomDl, symbol, &g_hcomFunc.entry)`: a missing symbol stores a null pointer. -/
def hcom4dbLoadSymbol (image : Image) (s : DlState) (symbol : String) (entry : HcomFunc) :
    DlState × Int :=
  ({ s with gHcomFunc := Function.update s.gHcomFunc entry (image.dlsym symbol) },
    if image.dlsym symbol = 0 then -1 else ockRpcOk)

/-- The body the functions that resolve symbols share. -/
def loadSymbols (image : Image) (s : DlState) : List (String × HcomFunc) → DlState × Int
  | [] => (s, ockRpcOk)
  | p :: ps =>
    match hcom4dbLoadSymbol image s p.1 p.2 with
    | (s, ret) => if ret ≠ ockRpcOk then (s, ockRpcErr) else loadSymbols image s ps

/-! ## The symbols -/

def hcomDlsymServiceLayerServiceHandlerFunc : List (String × HcomFunc) :=
  [("Service_GetChannel", .getChannel), ("Service_GetContextType", .getContextType),
  ("Service_GetResult", .getResult), ("Service_GetRspCtx", .getRspCtx),
  ("Service_GetOpInfo", .getOpInfo), ("Service_GetMessageData", .getMessageData),
  ("Service_GetMessageDataLen", .getMessageDataLen), ("Service_ContextClone", .contextClone),
  ("Service_ContextDeClone", .contextDeClone)]

def hcomDlsymServiceLayerServiceRndvHandlerFunc : List (String × HcomFunc) :=
  [("Service_GetRndvChannel", .getRndvChannel), ("Service_GetRndvCtxType", .getRndvCtxType),
  ("Service_GetRndvOpInfo", .getRndvOpInfo), ("Service_GetRndvMessage", .getRndvMessage),
  ("Service_RndvFreeContext", .rndvFreeContext), ("Service_RndvReply", .rndvReply)]

def hcomDlsymServiceLayerRndvFunc : List (String × HcomFunc) :=
  [("Channel_SyncRndvCall", .syncRndvCall), ("Channel_AsyncRndvCall", .asyncRndvCall),
  ("Channel_SyncRndvSglCall", .syncRndvSglCall), ("Channel_AsyncRndvSglCall", .asyncRndvSglCall)]

def hcomDlsymServiceLayerSendFunc : List (String × HcomFunc) :=
  [("Channel_SetUpCtx", .setUpCtx), ("Channel_GetUpCtx", .getUpCtx), ("Channel_PostSend", .postSend),
  ("Channel_PostResponse", .postResponse), ("Channel_PostSendRaw", .postSendRaw),
  ("Channel_PostResponseRaw", .postResponseRaw), ("Channel_PostSendRawSgl", .postSendRawSgl)]

def hcomDlsymServiceLayerCallFunc : List (String × HcomFunc) :=
  [("Channel_SyncCall", .syncCall), ("Channel_AsyncCall", .asyncCall),
  ("Channel_SyncCallRaw", .syncCallRaw), ("Channel_AsyncCallRaw", .asyncCallRaw),
  ("Channel_SyncCallRawSgl", .syncCallRawSgl), ("Channel_AsyncCallRawSgl", .asyncCallRawSgl)]

def hcomDlsymServiceLayerOnesideFunc : List (String × HcomFunc) :=
  [("Service_RegisterMemoryRegion", .registerMemoryRegion),
  ("Service_RegisterAssignMemoryRegion", .registerAssignMemoryRegion),
  ("Service_GetMemoryRegionInfo", .getMemoryRegionInfo),
  ("Service_DestroyMemoryRegion", .destroyMemoryRegion), ("Channel_Read", .read),
  ("Channel_ReadSgl", .readSgl), ("Channel_Write", .write), ("Channel_WriteSgl", .writeSgl)]

def hcomDlsymServiceLayerChannelHandleFunc : List (String × HcomFunc) :=
  [("Channel_Close", .channelClose), ("Channel_DeRefer", .channelDeRefer),
  ("Channel_SetOneSideTimeout", .setOneSideTimeout), ("Channel_SetTwoSideTimeout", .setTwoSideTimeout)]

def hcomDlsymServiceLayerServiceInitFunc : List (String × HcomFunc) :=
  [("Service_SetExternalLogger", .setExternalLogger), ("Service_Create", .serviceCreate),
  ("Service_SetOobIpAndPort", .setOobIpAndPort), ("Service_GetOobIpAndPort", .getOobIpAndPort),
  ("Service_Start", .serviceStart), ("Service_Stop", .serviceStop),
  ("Service_Destroy", .serviceDestroy), ("Service_Connect", .channelConnect),
  ("Channel_Destroy", .channelDestroy)]

def hcomDlsymServiceLayerServiceCreateRegisterFunc : List (String × HcomFunc) :=
  [("Service_RegisterChannelHandler", .registerChannelHandler),
  ("Service_RegisterOpHandler", .registerOpHandler),
  ("Service_RegisterIdleHandler", .registerIdleHandler),
  ("Service_RegisterAllocateHandler", .registerAllocateHandler),
  ("Service_RegisterFreeHandler", .registerFreeHandler),
  ("Service_RegisterRndvOpHandler", .registerRndvOpHandler), ("Service_RegisterTLSCb", .registerTLSCb)]

def hcomDlsymTransLayerAllocatorFunc : List (String × HcomFunc) :=
  [("Net_MemoryAllocatorCreate", .memoryAllocatorCreate),
  ("Net_MemoryAllocatorDestroy", .memoryAllocatorDestroy),
  ("Net_MemoryAllocatorSetMrKey", .memoryAllocatorSetMrKey),
  ("Net_MemoryAllocatorMemOffset", .memoryAllocatorMemOffset),
  ("Net_MemoryAllocatorAllocate", .memoryAllocatorAllocate),
  ("Net_MemoryAllocatorFreeSize", .memoryAllocatorFreeSize),
  ("Net_MemoryAllocatorFree", .memoryAllocatorFree)]

/-- `g_dlSymFuncsArr`. -/
def gDlSymFuncsArr : List (List (String × HcomFunc)) :=
  [hcomDlsymServiceLayerCallFunc, hcomDlsymServiceLayerChannelHandleFunc,
  hcomDlsymServiceLayerOnesideFunc, hcomDlsymServiceLayerRndvFunc, hcomDlsymServiceLayerSendFunc,
  hcomDlsymServiceLayerServiceCreateRegisterFunc, hcomDlsymServiceLayerServiceHandlerFunc,
  hcomDlsymServiceLayerServiceInitFunc, hcomDlsymServiceLayerServiceRndvHandlerFunc,
  hcomDlsymTransLayerAllocatorFunc]

/-! ## Loading -/

/-- `HcomDlsym`: what a function returns is logged and then lost. -/
def hcomDlsym (image : Image) (s : DlState) : DlState × Int :=
  (gDlSymFuncsArr.foldl (fun s ps => (loadSymbols image s ps).1) s, ockRpcOk)

/-- `FinishOckRpcDl`. -/
def finishOckRpcDl : DlState := {}

/-- `InitOckRpcDl`; `dlopen` says which library is found at a path. -/
def initOckRpcDl (s : DlState) (path : Option CStr) (pathLen : UInt32) (dlopen : CStr → Option Image) :
    DlState × Int :=
  match path with
  | none => (s, ockRpcErr)
  | some path =>
    if pathLen = 0 then (s, ockRpcErr)
    else if s.gHcomDl ≠ 0 then (s, ockRpcOk)
    else
      match dlopen path with
      | none => ({ s with gHcomDl := 0 }, ockRpcErr)
      | some image =>
        match hcomDlsym image { s with gHcomDl := image.handle } with
        | (s, ret) => if ret ≠ ockRpcOk then (finishOckRpcDl, ockRpcErr) else (s, ockRpcOk)

/-! ## What a load stores -/

section

variable {image : Image} {s : DlState} {f : HcomFunc} {sym : String} {ps : List (String × HcomFunc)}

theorem loadSymbols_missing {p : String × HcomFunc} (h : image.dlsym p.1 = 0) :
    loadSymbols image s (p :: ps) = ((hcom4dbLoadSymbol image s p.1 p.2).1, ockRpcErr) := by
  simp [loadSymbols, hcom4dbLoadSymbol, h]

theorem loadSymbols_exported {p : String × HcomFunc} (h : image.dlsym p.1 ≠ 0) :
    loadSymbols image s (p :: ps) =
      loadSymbols image (hcom4dbLoadSymbol image s p.1 p.2).1 ps := by
  simp [loadSymbols, hcom4dbLoadSymbol, h]

/-- An entry a function does not resolve keeps its value. -/
theorem loadSymbols_outside (hf : f ∉ ps.map Prod.snd) :
    (loadSymbols image s ps).1.gHcomFunc f = s.gHcomFunc f := by
  induction ps generalizing s with
  | nil => rfl
  | cons p ps ih =>
    rw [List.map_cons, List.mem_cons, not_or] at hf
    have hload : (hcom4dbLoadSymbol image s p.1 p.2).1.gHcomFunc f = s.gHcomFunc f :=
      Function.update_of_ne hf.1 _ _
    by_cases h : image.dlsym p.1 = 0
    · rw [loadSymbols_missing h, hload]
    · rw [loadSymbols_exported h, ih hf.2, hload]

/-- The symbols of a function up to the one of an entry. -/
def upTo (f : HcomFunc) : List (String × HcomFunc) → List String
  | [] => []
  | p :: ps => if p.2 = f then [p.1] else p.1 :: upTo f ps

/-- A function stores the address of an entry when it gets that far. -/
theorem loadSymbols_entry (hnd : (ps.map Prod.snd).Nodup) (hs : s.gHcomFunc f = 0)
    (hf : f ∈ ps.map Prod.snd) :
    (loadSymbols image s ps).1.gHcomFunc f ≠ 0 ↔ ∀ sym ∈ upTo f ps, image.dlsym sym ≠ 0 := by
  induction ps generalizing s with
  | nil => cases hf
  | cons p ps ih =>
    rw [List.map_cons, List.nodup_cons] at hnd
    by_cases hp : p.2 = f
    · -- the entry itself is resolved first, and not written again
      have hload : (hcom4dbLoadSymbol image s p.1 p.2).1.gHcomFunc f = image.dlsym p.1 := by
        rw [hp]
        exact Function.update_self _ _ _
      have hval : (loadSymbols image s (p :: ps)).1.gHcomFunc f = image.dlsym p.1 := by
        by_cases h : image.dlsym p.1 = 0
        · rw [loadSymbols_missing h, hload]
        · rw [loadSymbols_exported h, loadSymbols_outside (hp ▸ hnd.1), hload]
      rw [hval, upTo, if_pos hp]
      simp
    · have hload : (hcom4dbLoadSymbol image s p.1 p.2).1.gHcomFunc f = 0 := by
        rw [← hs]
        exact Function.update_of_ne (Ne.symm hp) _ _
      have hmem : f ∈ ps.map Prod.snd := by
        rw [List.map_cons, List.mem_cons] at hf
        exact hf.resolve_left (Ne.symm hp)
      rw [upTo, if_neg hp, List.forall_mem_cons]
      by_cases h : image.dlsym p.1 = 0
      · rw [loadSymbols_missing h, hload]
        exact iff_of_false (not_not.mpr rfl) fun hall => hall.1 h
      · rw [loadSymbols_exported h, ih hnd.2 hload hmem]
        exact (and_iff_right h).symm

/-! ## The ten functions -/

theorem foldl_outside {gs : List (List (String × HcomFunc))} (hf : ∀ ps ∈ gs, f ∉ ps.map Prod.snd) :
    (gs.foldl (fun s ps => (loadSymbols image s ps).1) s).gHcomFunc f = s.gHcomFunc f := by
  induction gs generalizing s with
  | nil => rfl
  | cons g gs ih =>
    rw [List.foldl_cons, ih fun ps hps => hf ps (List.mem_cons_of_mem g hps)]
    exact loadSymbols_outside (hf g List.mem_cons_self)

theorem foldl_entry {gs : List (List (String × HcomFunc))} (hnd : (gs.flatten.map Prod.snd).Nodup)
    (hs : s.gHcomFunc f = 0) (hps : ps ∈ gs) (hf : f ∈ ps.map Prod.snd) :
    (gs.foldl (fun s ps => (loadSymbols image s ps).1) s).gHcomFunc f ≠ 0 ↔
      ∀ sym ∈ upTo f ps, image.dlsym sym ≠ 0 := by
  induction gs generalizing s with
  | nil => cases hps
  | cons g gs ih =>
    rw [List.flatten_cons, List.map_append, List.nodup_append] at hnd
    obtain ⟨hg, hgs, hdis⟩ := hnd
    have hrest : ∀ ps ∈ gs, f ∈ ps.map Prod.snd → f ∈ gs.flatten.map Prod.snd := by
      intro ps hps hf
      obtain ⟨p, hp, rfl⟩ := List.mem_map.mp hf
      exact List.mem_map_of_mem (List.mem_flatten.mpr ⟨ps, hps, hp⟩)
    rw [List.foldl_cons]
    rcases List.mem_cons.mp hps with rfl | hps
    · rw [foldl_outside fun ps' hps' hf' => hdis f hf f (hrest ps' hps' hf') rfl]
      exact loadSymbols_entry hg hs hf
    · refine ih hgs ?_ hps
      rw [loadSymbols_outside fun hf' => hdis f hf' f (hrest ps hps hf) rfl]
      exact hs

/-- Each entry is resolved by one call at most. -/
theorem entries_distinct : (gDlSymFuncsArr.flatten.map Prod.snd).Nodup := by
  decide

/-- No function resolves `Channel_PostResponseRawSgl`. -/
theorem postResponseRawSgl_unresolved :
    ∀ ps ∈ gDlSymFuncsArr, HcomFunc.postResponseRawSgl ∉ ps.map Prod.snd := by
  decide

theorem resolved_of_ne (hf : f ≠ .postResponseRawSgl) : ∃ ps ∈ gDlSymFuncsArr, f ∈ ps.map Prod.snd := by
  revert hf
  cases f <;> decide

/-- An entry is there after a load from scratch exactly when its symbol, and every symbol its function
resolves before it, are exported. -/
theorem entry_loaded_iff (image : Image) (hps : ps ∈ gDlSymFuncsArr) (hf : f ∈ ps.map Prod.snd)
    (hs : s.gHcomFunc f = 0) :
    (hcomDlsym image s).1.gHcomFunc f ≠ 0 ↔ ∀ sym ∈ upTo f ps, image.dlsym sym ≠ 0 :=
  foldl_entry entries_distinct hs hps hf

theorem postResponseRawSgl_null (image : Image) (s : DlState) :
    (hcomDlsym image s).1.gHcomFunc .postResponseRawSgl = s.gHcomFunc .postResponseRawSgl :=
  foldl_outside postResponseRawSgl_unresolved

theorem upTo_subset {sym : String} (h : sym ∈ upTo f ps) : sym ∈ ps.map Prod.fst := by
  induction ps with
  | nil => cases h
  | cons p ps ih =>
    rw [upTo] at h
    split at h
    · rw [List.mem_singleton.mp h]
      exact List.mem_cons_self
    · rcases List.mem_cons.mp h with rfl | h
      · exact List.mem_cons_self
      · exact List.mem_cons_of_mem _ (ih h)

theorem mem_upTo {p : String × HcomFunc} (hnd : (ps.map Prod.snd).Nodup) (hp : p ∈ ps) :
    p.1 ∈ upTo p.2 ps := by
  induction ps with
  | nil => cases hp
  | cons q ps ih =>
    rw [List.map_cons, List.nodup_cons] at hnd
    rw [upTo]
    rcases List.mem_cons.mp hp with rfl | hp
    · rw [if_pos rfl]
      exact List.mem_singleton_self _
    · split
      · rename_i hq
        exact absurd (hq ▸ List.mem_map_of_mem hp) hnd.1
      · exact List.mem_cons_of_mem _ (ih hnd.2 hp)

/-- A load from scratch fills in all other entries exactly when the library exports every symbol that is
looked up. -/
theorem rest_loaded_iff (image : Image) (hs : ∀ f, s.gHcomFunc f = 0) :
    (∀ f, f ≠ .postResponseRawSgl → (hcomDlsym image s).1.gHcomFunc f ≠ 0) ↔
      ∀ ps ∈ gDlSymFuncsArr, ∀ p ∈ ps, image.dlsym p.1 ≠ 0 := by
  constructor
  · intro h ps hps p hp
    have hf : p.2 ∈ ps.map Prod.snd := List.mem_map_of_mem hp
    have hne : p.2 ≠ .postResponseRawSgl := fun hne => postResponseRawSgl_unresolved ps hps (hne ▸ hf)
    have hnd : (ps.map Prod.snd).Nodup :=
      entries_distinct.sublist (List.Sublist.map _ (List.sublist_flatten_of_mem hps))
    exact (entry_loaded_iff image hps hf (hs p.2)).mp (h p.2 hne) p.1 (mem_upTo hnd hp)
  · intro h f hne
    obtain ⟨ps, hps, hf⟩ := resolved_of_ne hne
    refine (entry_loaded_iff image hps hf (hs f)).mpr ?_
    intro sym hsym
    obtain ⟨p, hp, rfl⟩ := List.mem_map.mp (upTo_subset hsym)
    exact h ps hps p hp

end

/-! ## All or nothing -/

/-- Whether the library is opened; then its image. -/
def opened (path : Option CStr) (pathLen : UInt32) (dlopen : CStr → Option Image) : Option Image :=
  if pathLen = 0 then none else path.bind dlopen

section

variable {path : Option CStr} {pathLen : UInt32} {dlopen : CStr → Option Image} {image : Image}

theorem init_of_closed (h : opened path pathLen dlopen = none) :
    initOckRpcDl {} path pathLen dlopen = ({}, ockRpcErr) := by
  cases path with
  | none => rfl
  | some path =>
    unfold initOckRpcDl
    simp only
    split
    · rfl
    · rename_i hlen
      rw [opened, if_neg hlen, Option.bind_some] at h
      rw [if_neg (not_not.mpr rfl), h]

theorem init_of_opened (h : opened path pathLen dlopen = some image) :
    initOckRpcDl {} path pathLen dlopen =
      ((hcomDlsym image { gHcomDl := image.handle }).1, ockRpcOk) := by
  rw [opened] at h
  split at h
  · cases h
  · rename_i hlen
    cases path with
    | none => cases h
    | some path =>
      rw [Option.bind_some] at h
      unfold initOckRpcDl
      simp only
      rw [if_neg hlen, if_neg (not_not.mpr rfl), h]
      rfl

/-- A load succeeds exactly when the library is opened. -/
theorem init_ok_iff : (initOckRpcDl {} path pathLen dlopen).2 = ockRpcOk ↔
    (opened path pathLen dlopen).isSome := by
  cases h : opened path pathLen dlopen with
  | none =>
    rw [init_of_closed h]
    exact iff_of_false ockRpcErr_ne_ok Bool.false_ne_true
  | some image =>
    rw [init_of_opened h]
    exact iff_of_true rfl rfl

/-- A load that succeeds has opened the library and set every entry a wrapper calls; a load that fails has
set nothing. -/
structure AllOrNothing (r : DlState × Int) : Prop where
  all : r.2 = ockRpcOk → r.1.gHcomDl ≠ 0 ∧ ∀ f, r.1.gHcomFunc f ≠ 0
  nothing : r.2 ≠ ockRpcOk → r.1.gHcomDl = 0 ∧ ∀ f, r.1.gHcomFunc f = 0

/-- **Loading the transport library** is all or nothing exactly when the library is not opened. -/
theorem init_all_or_nothing_iff (path : Option CStr) (pathLen : UInt32) (dlopen : CStr → Option Image) :
    AllOrNothing (initOckRpcDl {} path pathLen dlopen) ↔
      path = none ∨ pathLen = 0 ∨ ∀ p ∈ path, dlopen p = none := by
  have hcond : (path = none ∨ pathLen = 0 ∨ ∀ p ∈ path, dlopen p = none) ↔
      opened path pathLen dlopen = none := by
    cases path with
    | none => simp [opened]
    | some p => simp [opened, or_iff_not_imp_left]
  rw [hcond]
  cases h : opened path pathLen dlopen with
  | none =>
    rw [init_of_closed h]
    exact iff_of_true ⟨fun h => absurd h ockRpcErr_ne_ok, fun _ => ⟨rfl, fun _ => rfl⟩⟩ rfl
  | some image =>
    rw [init_of_opened h]
    refine iff_of_false ?_ (by simp)
    intro hall
    refine (hall.all rfl).2 .postResponseRawSgl ?_
    rw [postResponseRawSgl_null]

/-- A library that exports everything leaves one entry null, a library that exports nothing leaves all of
them null, and both loads succeed. -/
theorem init_incomplete :
    let full : Image := ⟨7, by decide, fun _ => 9⟩
    let empty : Image := ⟨7, by decide, fun _ => 0⟩
    let path := some (cstr "/opt/libhcom.so")
    (initOckRpcDl {} path 4096 fun _ => some full).2 = ockRpcOk ∧
      (initOckRpcDl {} path 4096 fun _ => some full).1.gHcomFunc .postResponseRawSgl = 0 ∧
      (initOckRpcDl {} path 4096 fun _ => some empty).2 = ockRpcOk ∧
      (initOckRpcDl {} path 4096 fun _ => some empty).1.gHcomFunc .serviceCreate = 0 ∧
      ¬ AllOrNothing (initOckRpcDl {} path 4096 fun _ => some full) := by
  refine ⟨rfl, rfl, rfl, rfl, ?_⟩
  intro h
  exact (h.all rfl).2 .postResponseRawSgl rfl

end

end Dlopen

end Hcom4db
