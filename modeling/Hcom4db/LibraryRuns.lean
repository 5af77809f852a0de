import Hcom4db.Dlopen

/-!
# Hcom4db.LibraryRuns

The transport library over a run of creates. Each create looks `HCOM4DB_LIB_PATH` up anew, makes a path of
it and passes that to `InitOckRpcDl`; the wrappers call whatever `g_hcomFunc` holds at that moment.

* `hcom4dbInitDlopenSo`, `callThrough`: one attempt, and one call of a wrapper.
* `Attempt.opens`: the library an attempt would open if none were loaded.
* `library_run`: the first attempt that opens a library decides what every wrapper calls from then on.
-/

namespace Hcom4db

namespace Dlopen

/-! ## The path -/

def hcom4dbSoName : CStr := cstr "libhcom.so"

def pathMax : Nat := 4096

/-- What an attempt finds: the value of `HCOM4DB_LIB_PATH`, the real path of a path, and the library at
one. -/
structure Attempt where
  getenv : Option CStr
  realpath : CStr → Option CStr
  dlopen : CStr → Option Image

/-- `Hcom4dbGetLibPath`: what it stores in `rpcPath`. -/
def hcom4dbGetLibPath (e : Attempt) (rpcPathLen : UInt32) : Option CStr :=
  match e.getenv with
  | none => none
  | some tmp => if rpcPathLen.toNat < tmp.length then none else e.realpath tmp

/-- `snprintf_s(dest, destMax, count, ..)` with a result of `s`: a result that does not fit is cut off, and
the call fails. -/
def snprintfS (count : Nat) (s : CStr) : CStr × Int :=
  if count < s.length then (s.take count, -1) else (s, s.length)

/-- `Hcom4dbInitDlopenSo`. -/
def hcom4dbInitDlopenSo (s : DlState) (e : Attempt) : DlState × Int :=
  match hcom4dbGetLibPath e pathMax.toUInt32 with
  | none => (s, ockRpcErr)
  | some rpcPath =>
    match snprintfS (pathMax - 1) (rpcPath ++ cstr "/" ++ hcom4dbSoName) with
    | (ockRpcDlPath, ret) =>
      if ret < 0 then (s, ockRpcErr)
      else
        match initOckRpcDl s (some ockRpcDlPath) pathMax.toUInt32 e.dlopen with
        | (s, ret) => if ret ≠ ockRpcOk then (s, ockRpcErr) else (s, ockRpcOk)

/-! ## The wrappers -/

/-- What a wrapper returns when its entry is null: `OCK_RPC_ERR`, a zero of its type, or nothing. -/
inductive WhenNull where
  | err | zero | nothing
  deriving DecidableEq

/-- The wrapper of an entry. -/
def wrapper : HcomFunc → String
  | .getChannel => "Service_GetChannel"
  | .getContextType => "Service_GetContextType"
  | .getResult => "Service_GetResult"
  | .getRspCtx => "Service_GetRspCtx"
  | .getOpInfo => "Service_GetOpInfo"
  | .getMessageData => "Service_GetMessageData"
  | .getMessageDataLen => "Service_GetMessageDataLen"
  | .contextClone => "Service_ContextClone"
  | .contextDeClone => "Service_ContextDeClone"
  | .getRndvChannel => "Service_GetRndvChannel"
  | .getRndvCtxType => "Service_GetRndvCtxType"
  | .getRndvOpInfo => "Service_GetRndvOpInfo"
  | .getRndvMessage => "Service_GetRndvMessage"
  | .rndvFreeContext => "Service_RndvFreeContext"
  | .rndvReply => "Service_RndvReply"
  | .setUpCtx => "Channel_SetUpCtx"
  | .getUpCtx => "Channel_GetUpCtx"
  | .postSend => "Channel_PostSend"
  | .postResponse => "Channel_PostResponse"
  | .postSendRaw => "Channel_PostSendRaw"
  | .postResponseRaw => "Channel_PostResponseRaw"
  | .postSendRawSgl => "Channel_PostSendRawSgl"
  | .postResponseRawSgl => "Channel_PostResponseRawSgl"
  | .syncCall => "Channel_SyncCall"
  | .asyncCall => "Channel_AsyncCall"
  | .syncCallRaw => "Channel_SyncCallRaw"
  | .asyncCallRaw => "Channel_AsyncCallRaw"
  | .syncCallRawSgl => "Channel_SyncCallRawSgl"
  | .asyncCallRawSgl => "Channel_AsyncCallRawSgl"
  | .syncRndvCall => "Channel_SyncRndvCall"
  | .asyncRndvCall => "Channel_AsyncRndvCall"
  | .syncRndvSglCall => "Channel_SyncRndvSglCall"
  | .asyncRndvSglCall => "Channel_AsyncRndvSglCall"
  | .read => "Channel_Read"
  | .readSgl => "Channel_ReadSgl"
  | .write => "Channel_Write"
  | .writeSgl => "Channel_WriteSgl"
  | .channelClose => "Channel_Close"
  | .setOneSideTimeout => "Channel_SetOneSideTimeout"
  | .setTwoSideTimeout => "Channel_SetTwoSideTimeout"
  | .setExternalLogger => "Service_SetExternalLogger"
  | .serviceCreate => "Service_Create"
  | .setOobIpAndPort => "Service_SetOobIpAndPort"
  | .getOobIpAndPort => "Service_GetOobIpAndPort"
  | .serviceStart => "Service_Start"
  | .serviceStop => "Service_Stop"
  | .serviceDestroy => "Service_Destroy"
  | .channelConnect => "Service_Connect"
  | .channelDeRefer => "Channel_DeRefer"
  | .channelDestroy => "Channel_Destroy"
  | .registerMemoryRegion => "Service_RegisterMemoryRegion"
  | .registerAssignMemoryRegion => "Service_RegisterAssignMemoryRegion"
  | .getMemoryRegionInfo => "Service_GetMemoryRegionInfo"
  | .destroyMemoryRegion => "Service_DestroyMemoryRegion"
  | .registerChannelHandler => "Service_RegisterChannelHandler"
  | .registerOpHandler => "Service_RegisterOpHandler"
  | .registerIdleHandler => "Service_RegisterIdleHandler"
  | .registerAllocateHandler => "Service_RegisterAllocateHandler"
  | .registerFreeHandler => "Service_RegisterFreeHandler"
  | .registerRndvOpHandler => "Service_RegisterRndvOpHandler"
  | .registerTLSCb => "Service_RegisterTLSCb"
  | .memoryAllocatorCreate => "Net_MemoryAllocatorCreate"
  | .memoryAllocatorDestroy => "Net_MemoryAllocatorDestroy"
  | .memoryAllocatorSetMrKey => "Net_MemoryAllocatorSetMrKey"
  | .memoryAllocatorMemOffset => "Net_MemoryAllocatorMemOffset"
  | .memoryAllocatorFreeSize => "Net_MemoryAllocatorFreeSize"
  | .memoryAllocatorAllocate => "Net_MemoryAllocatorAllocate"
  | .memoryAllocatorFree => "Net_MemoryAllocatorFree"

def whenNull : HcomFunc → WhenNull
  | .getMessageData | .getMessageDataLen | .contextClone | .getOobIpAndPort | .registerChannelHandler |
    .registerOpHandler | .registerIdleHandler | .registerAllocateHandler | .registerFreeHandler |
    .registerRndvOpHandler | .registerTLSCb => .zero
  | .contextDeClone | .channelClose | .setOneSideTimeout | .setTwoSideTimeout | .setExternalLogger |
    .setOobIpAndPort | .serviceStop | .channelDeRefer | .channelDestroy |
    .destroyMemoryRegion => .nothing
  | _ => .err

/-- What a call of the wrapper of an entry calls, or what it returns by itself. -/
def callThrough (s : DlState) (f : HcomFunc) : Except WhenNull Addr :=
  if s.gHcomFunc f ≠ 0 then .ok (s.gHcomFunc f) else .error (whenNull f)

/-! ## What is looked up -/

section

variable {image : Image} {s : DlState} {f : HcomFunc} {e : Attempt}

/-- Every symbol is looked up for the wrapper of that name. -/
theorem symbols_named : ∀ p ∈ gDlSymFuncsArr.flatten, p.1 = wrapper p.2 := by
  decide

/-- What an entry holds after a function: what it held, or what the library exports under its symbol. -/
theorem loadSymbols_value (ps : List (String × HcomFunc)) :
    (loadSymbols image s ps).1.gHcomFunc f = s.gHcomFunc f ∨
      ∃ p ∈ ps, p.2 = f ∧ (loadSymbols image s ps).1.gHcomFunc f = image.dlsym p.1 := by
  induction ps generalizing s with
  | nil => exact .inl rfl
  | cons p ps ih =>
    have hload : (hcom4dbLoadSymbol image s p.1 p.2).1.gHcomFunc f = s.gHcomFunc f ∨
        p.2 = f ∧ (hcom4dbLoadSymbol image s p.1 p.2).1.gHcomFunc f = image.dlsym p.1 := by
      by_cases hp : p.2 = f
      · subst hp
        exact .inr ⟨rfl, Function.update_self _ _ _⟩
      · exact .inl (Function.update_of_ne (Ne.symm hp) _ _)
    have hfirst : ∀ v, v = (hcom4dbLoadSymbol image s p.1 p.2).1.gHcomFunc f →
        v = s.gHcomFunc f ∨ ∃ q ∈ p :: ps, q.2 = f ∧ v = image.dlsym q.1 := by
      intro v hv
      rcases hload with h | ⟨hp, h⟩
      · exact .inl (hv.trans h)
      · exact .inr ⟨p, List.mem_cons_self, hp, hv.trans h⟩
    by_cases h : image.dlsym p.1 = 0
    · rw [loadSymbols_missing h]
      exact hfirst _ rfl
    · rw [loadSymbols_exported h]
      rcases @ih (hcom4dbLoadSymbol image s p.1 p.2).1 with h1 | ⟨q, hq, hqf, h1⟩
      · exact hfirst _ h1
      · exact .inr ⟨q, List.mem_cons_of_mem _ hq, hqf, h1⟩

theorem foldl_value (gs : List (List (String × HcomFunc))) :
    (gs.foldl (fun s ps => (loadSymbols image s ps).1) s).gHcomFunc f = s.gHcomFunc f ∨
      ∃ p ∈ gs.flatten, p.2 = f ∧
        (gs.foldl (fun s ps => (loadSymbols image s ps).1) s).gHcomFunc f = image.dlsym p.1 := by
  induction gs generalizing s with
  | nil => exact .inl rfl
  | cons g gs ih =>
    rw [List.foldl_cons]
    rcases @ih (loadSymbols image s g).1 with h | ⟨p, hp, hpf, h⟩
    · rcases @loadSymbols_value image s f g with h1 | ⟨p, hp, hpf, h1⟩
      · exact .inl (h.trans h1)
      · refine .inr ⟨p, ?_, hpf, h.trans h1⟩
        rw [List.flatten_cons]
        exact List.mem_append_left _ hp
    · refine .inr ⟨p, ?_, hpf, h⟩
      rw [List.flatten_cons]
      exact List.mem_append_right _ hp

/-- The library exports the symbol of an entry and those its function looks up before it. -/
def Resolved (image : Image) (f : HcomFunc) : Prop :=
  ∃ ps ∈ gDlSymFuncsArr, f ∈ ps.map Prod.snd ∧ ∀ sym ∈ upTo f ps, image.dlsym sym ≠ 0

instance (image : Image) (f : HcomFunc) : Decidable (Resolved image f) :=
  inferInstanceAs (Decidable (∃ ps ∈ gDlSymFuncsArr, f ∈ ps.map Prod.snd ∧ _))

/-- The globals once a library has been opened. -/
def loaded (image : Image) : DlState := (hcomDlsym image { gHcomDl := image.handle }).1

theorem hcomDlsym_handle (image : Image) (s : DlState) : (hcomDlsym image s).1.gHcomDl = s.gHcomDl := by
  have hload : ∀ ps s, (loadSymbols image s ps).1.gHcomDl = s.gHcomDl := by
    intro ps
    induction ps with
    | nil => exact fun s => rfl
    | cons p ps ih =>
      intro s
      by_cases h : image.dlsym p.1 = 0
      · rw [loadSymbols_missing h]
        rfl
      · rw [loadSymbols_exported h, ih]
        rfl
  have hfold : ∀ gs : List (List (String × HcomFunc)), ∀ s,
      (gs.foldl (fun s ps => (loadSymbols image s ps).1) s).gHcomDl = s.gHcomDl := by
    intro gs
    induction gs with
    | nil => exact fun s => rfl
    | cons g gs ih =>
      intro s
      rw [List.foldl_cons, ih, hload]
  exact hfold gDlSymFuncsArr s

theorem loaded_ne_zero_iff : (loaded image).gHcomFunc f ≠ 0 ↔ Resolved image f := by
  by_cases hf : f = .postResponseRawSgl
  · subst hf
    rw [loaded, postResponseRawSgl_null]
    refine iff_of_false (not_not.mpr rfl) ?_
    rintro ⟨ps, hps, hmem, -⟩
    exact postResponseRawSgl_unresolved ps hps hmem
  · constructor
    · intro h
      obtain ⟨ps, hps, hmem⟩ := resolved_of_ne hf
      exact ⟨ps, hps, hmem, (entry_loaded_iff image hps hmem rfl).mp h⟩
    · rintro ⟨ps, hps, hmem, h⟩
      exact (entry_loaded_iff image hps hmem rfl).mpr h

/-- What the wrappers call once a library has been opened. -/
theorem callThrough_loaded (image : Image) (f : HcomFunc) :
    callThrough (loaded image) f =
      if Resolved image f then .ok (image.dlsym (wrapper f)) else .error (whenNull f) := by
  by_cases h : Resolved image f
  · have hne := loaded_ne_zero_iff.mpr h
    rw [callThrough, if_pos hne, if_pos h]
    rcases @foldl_value image { gHcomDl := image.handle } f gDlSymFuncsArr with hv | ⟨p, hp, rfl, hv⟩
    · exact absurd hv hne
    · rw [← symbols_named p hp]
      exact congrArg _ hv
  · rw [callThrough, if_neg (mt loaded_ne_zero_iff.mp h), if_neg h]

/-! ## Runs -/

/-- The path an attempt makes: all of it, or none. -/
def Attempt.path (e : Attempt) : Option CStr :=
  (hcom4dbGetLibPath e pathMax.toUInt32).bind fun p =>
    if (p ++ cstr "/" ++ hcom4dbSoName).length < pathMax then some (p ++ cstr "/" ++ hcom4dbSoName) else none

/-- The library an attempt would open if none were loaded. -/
def Attempt.opens (e : Attempt) : Option Image := e.path.bind e.dlopen

theorem snprintfS_fits {count : Nat} {q : CStr} (h : q.length ≤ count) :
    snprintfS count q = (q, (q.length : Int)) := if_neg (Nat.not_lt.mpr h)

theorem snprintfS_cut {count : Nat} {q : CStr} (h : count < q.length) :
    snprintfS count q = (q.take count, -1) := if_pos h

theorem init_status (s : DlState) (path : Option CStr) (pathLen : UInt32) (dlopen : CStr → Option Image) :
    (initOckRpcDl s path pathLen dlopen).2 = ockRpcOk ∨ (initOckRpcDl s path pathLen dlopen).2 = ockRpcErr := by
  unfold initOckRpcDl
  cases path with
  | none => exact .inr rfl
  | some path =>
    simp only
    split
    · exact .inr rfl
    · split
      · exact .inl rfl
      · cases dlopen path with
        | none => exact .inr rfl
        | some image => exact .inl rfl

/-- An attempt passes the whole path on, or fails. -/
theorem initDlopenSo_eq (s : DlState) (e : Attempt) :
    hcom4dbInitDlopenSo s e =
      match e.path with
      | none => (s, ockRpcErr)
      | some p => initOckRpcDl s (some p) pathMax.toUInt32 e.dlopen := by
  unfold hcom4dbInitDlopenSo Attempt.path
  cases hcom4dbGetLibPath e pathMax.toUInt32 with
  | none => rfl
  | some p =>
    simp only [Option.bind_some]
    generalize p ++ cstr "/" ++ hcom4dbSoName = q
    by_cases hlen : q.length < pathMax
    · have hfits : q.length ≤ pathMax - 1 := by omega
      have hpos : ¬ (q.length : Int) < 0 := by omega
      simp only [snprintfS_fits hfits, if_neg hpos, if_pos hlen]
      rcases init_status s (some q) pathMax.toUInt32 e.dlopen with h | h
      · rw [if_neg (not_not.mpr h), ← h]
      · rw [if_pos (by rw [h]; exact ockRpcErr_ne_ok), ← h]
    · have hcut : pathMax - 1 < q.length := by
        unfold pathMax at hlen ⊢
        omega
      simp only [snprintfS_cut hcut, if_neg hlen]
      rfl

/-- The globals after a run in which a library was opened, or none. -/
def after : Option Image → DlState
  | none => {}
  | some image => loaded image

theorem after_handle (image : Image) : (after (some image)).gHcomDl ≠ 0 := by
  rw [after, loaded, hcomDlsym_handle]
  exact image.handle_ne

/-- One attempt: it opens a library only if none is loaded. -/
theorem attempt_after (o : Option Image) (e : Attempt) :
    hcom4dbInitDlopenSo (after o) e =
      (after (o.or e.opens),
        if e.path.isSome ∧ (o.or e.opens).isSome then ockRpcOk else ockRpcErr) := by
  rw [initDlopenSo_eq, Attempt.opens]
  cases hp : e.path with
  | none => cases o <;> simp
  | some p =>
    have hlen : pathMax.toUInt32 ≠ 0 := by decide
    cases o with
    | none =>
      cases hd : e.dlopen p with
      | none =>
        have hc : opened (some p) pathMax.toUInt32 e.dlopen = none := by
          rw [opened, if_neg hlen, Option.bind_some, hd]
        simp [after, init_of_closed hc, hd]
      | some image =>
        have hc : opened (some p) pathMax.toUInt32 e.dlopen = some image := by
          rw [opened, if_neg hlen, Option.bind_some, hd]
        simp [after, init_of_opened hc, hd, loaded]
    | some image =>
      have h := after_handle image
      simp [initOckRpcDl, hlen, h]

def run (es : List Attempt) : DlState := es.foldl (fun s e => (hcom4dbInitDlopenSo s e).1) {}

theorem run_eq (es : List Attempt) : run es = after (es.findSome? Attempt.opens) := by
  have hrun : ∀ o, es.foldl (fun s e => (hcom4dbInitDlopenSo s e).1) (after o) =
      after (o.or (es.findSome? Attempt.opens)) := by
    induction es with
    | nil => intro o; cases o <;> rfl
    | cons e es ih =>
      intro o
      rw [List.foldl_cons, attempt_after, ih, Option.or_assoc, List.findSome?_cons]
      cases e.opens <;> rfl
  exact hrun none

/-- **The library of a run.** The first attempt whose path resolves and whose library can be opened decides
what the wrappers call from then on; nothing is called before, and what later attempts find changes
nothing. Each wrapper calls the symbol of its own name, unless that symbol or one its function looks up
before it is missing. An attempt succeeds when its path resolves and a library is loaded or opened. -/
theorem library_run (es : List Attempt) :
    (∀ f, callThrough (run es) f =
      match es.findSome? Attempt.opens with
      | none => .error (whenNull f)
      | some image =>
        if Resolved image f then .ok (image.dlsym (wrapper f)) else .error (whenNull f)) ∧
      ∀ e, (hcom4dbInitDlopenSo (run es) e).2 = ockRpcOk ↔
        e.path.isSome ∧ ∃ e' ∈ es ++ [e], e'.opens.isSome := by
  constructor
  · intro f
    rw [run_eq]
    cases es.findSome? Attempt.opens with
    | none => rfl
    | some image => exact callThrough_loaded image f
  · intro e
    have hsome : ((es.findSome? Attempt.opens).or e.opens).isSome ↔ ∃ e' ∈ es ++ [e], e'.opens.isSome := by
      rw [Option.isSome_or, Bool.or_eq_true, List.findSome?_isSome_iff]
      simp [or_and_right, exists_or]
    rw [run_eq, attempt_after]
    simp only
    rw [← hsome]
    split
    · rename_i h
      exact iff_of_true rfl h
    · rename_i h
      exact iff_of_false ockRpcErr_ne_ok h

/-- A library without `Service_Start`: the functions after it in its group are not there either, and a
complete library that is found later is not opened. -/
example :
    let missing : Image := ⟨7, by decide, fun sym => if sym = "Service_Start" then 0 else 9⟩
    let full : Image := ⟨8, by decide, fun _ => 10⟩
    let at_ (image : Image) : Attempt := ⟨some (cstr "/opt"), some, fun _ => some image⟩
    callThrough (run [at_ missing, at_ full]) .serviceDestroy = .error .err ∧
      callThrough (run [at_ missing, at_ full]) .serviceCreate = .ok 9 := by
  decide

end

end Dlopen

end Hcom4db
