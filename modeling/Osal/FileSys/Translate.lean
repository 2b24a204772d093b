import Osal.FileSys.Unmount

/-!
# What `OS_TranslatePath` computes

`osTranslatePath_spec`: for a `LocalPath` buffer of `OS_MAX_LOCAL_PATH_LEN` characters, every
write of `OS_TranslatePath` stays in the buffer and every read of `VirtualPath` stays before its
terminator (the model's buffer accesses are all defined); the call succeeds exactly when the path
passes the three syntax checks, the search by mount point finds a record mounted on the system
side, and the translated path fits; and on success the buffer starts with the system mount point,
then the path after the virtual mount point, then a terminator.
-/

namespace Osal

theorem translate_copies {buf smp src : List Char} {n m : Nat} (hn : smp.length = n) (hm : src.length = m)
    (h : n + m < buf.length) :
    ∃ b, ((writeBuf buf 0 smp).bind fun b₁ => (writeBuf b₁ n src).bind fun b₂ =>
        writeBuf b₂ (n + m) ['\x00']) = some b ∧
      b.length = buf.length ∧ b.take (n + m + 1) = smp ++ src ++ ['\x00'] := by
  subst hn hm
  obtain ⟨b₁, e₁, l₁, t₁⟩ := @writeBuf_some buf 0 smp (by omega)
  obtain ⟨b₂, e₂, l₂, t₂⟩ := @writeBuf_some b₁ smp.length src (by omega)
  obtain ⟨b, e₃, l₃, t₃⟩ := @writeBuf_some b₂ (smp.length + src.length) ['\x00'] (by simp; omega)
  simp only [zero_add, List.take_zero, List.nil_append, List.length_singleton] at t₁ t₃
  refine ⟨b, by simp only [e₁, e₂, e₃, Option.some_bind], by omega, ?_⟩
  rw [t₃, t₂, t₁]

section
variable {cfg : Config} {w : World}

theorem translate_fail {m : OsalM (Int × Option (List Char))} {c : Int} {buf : List Char} {P Q : Prop}
    {w' : World} (hm : m = pure (c, some buf)) (hc : c ≠ osSuccess) (hP : ¬P) :
    (∃ b, (m.run w').1.2 = some b ∧ b.length = buf.length) ∧ ((m.run w').1.1 = osSuccess ↔ P) ∧
      ((m.run w').1.1 = osSuccess → Q) := by
  subst hm
  exact ⟨⟨buf, rfl, rfl⟩, iff_of_false hc hP, fun h => absurd h hc⟩

/-- `OS_TranslatePath` with a buffer of `OS_MAX_LOCAL_PATH_LEN` characters stays inside its buffers,
succeeds exactly when its checks pass, and then writes the system mount point and the path's rest. -/
theorem osTranslatePath_spec (creator : OsalId) (vp : CStr) (buf : List Char)
    (hbuf : buf.length = cfg.maxLocalPathLen) :
    (∃ b, ((osTranslatePath cfg (specIdMgr cfg creator) (some vp) (some buf)).run w).1.2 = some b ∧
      b.length = buf.length) ∧
    (((osTranslatePath cfg (specIdMgr cfg creator) (some vp) (some buf)).run w).1.1 = osSuccess ↔
      vp.length < cfg.maxPathLen ∧ (∃ k, strrchr vp '/' = some k ∧ (vp.drop (k + 1)).length < cfg.maxFileName) ∧
      vp.get 0 = '/' ∧
      ∃ j, osObjectIdSearch w.tables osObjectTypeOsFilesys cfg.maxFileSystems
          (osFileSysFindVirtMountPoint vp w.tables) = some j ∧ (w.tables.filesys j).flags.mountedSystem ∧
        (w.tables.filesys j).systemMountpt.length + (vp.length - (w.tables.filesys j).virtualMountpt.length) <
          cfg.maxLocalPathLen) ∧
    (((osTranslatePath cfg (specIdMgr cfg creator) (some vp) (some buf)).run w).1.1 = osSuccess →
      ∃ j b, osObjectIdSearch w.tables osObjectTypeOsFilesys cfg.maxFileSystems
          (osFileSysFindVirtMountPoint vp w.tables) = some j ∧
        w.tables.fsActive j ∧ (w.tables.filesys j).flags.mountedVirtual ∧
        0 < (w.tables.filesys j).virtualMountpt.length ∧
        vp.chars.take (w.tables.filesys j).virtualMountpt.length = (w.tables.filesys j).virtualMountpt.chars ∧
        (vp.get (w.tables.filesys j).virtualMountpt.length = '/' ∨
          vp.get (w.tables.filesys j).virtualMountpt.length = '\x00') ∧
        ((osTranslatePath cfg (specIdMgr cfg creator) (some vp) (some buf)).run w).1.2 = some b ∧
        b.take ((w.tables.filesys j).systemMountpt.length +
            (vp.length - (w.tables.filesys j).virtualMountpt.length) + 1) =
          (w.tables.filesys j).systemMountpt.chars ++ vp.chars.drop (w.tables.filesys j).virtualMountpt.length ++
            ['\x00']) := by
  unfold osTranslatePath
  dsimp only
  by_cases h₁ : vp.length ≥ cfg.maxPathLen
  · rw [if_pos h₁]
    exact translate_fail rfl (by decide) fun h => absurd h.1 (not_lt.2 h₁)
  rw [if_neg h₁]
  rcases hk : strrchr vp '/' with _ | k
  · exact translate_fail rfl (by decide) fun ⟨_, ⟨_, hk', _⟩, _⟩ => Option.noConfusion hk'
  dsimp only
  by_cases h₂ : (vp.drop (k + 1)).length ≥ cfg.maxFileName
  · rw [if_pos h₂]
    exact translate_fail rfl (by decide) fun ⟨_, ⟨_, hk', h⟩, _⟩ => by
      rw [Option.some_inj] at hk'; subst hk'; omega
  rw [if_neg h₂]
  by_cases h₃ : vp.get 0 ≠ '/'
  · rw [if_pos h₃]
    exact translate_fail rfl (by decide) fun ⟨_, _, h, _⟩ => h₃ h
  rw [if_neg h₃]
  simp only [run_bind, run_osObjectIdGetBySearch _ _ (.inl rfl), specIdMgr_getBySearch_global,
    Config.maxForObjectType_filesys]
  rcases hs : osObjectIdSearch w.tables osObjectTypeOsFilesys cfg.maxFileSystems
    (osFileSysFindVirtMountPoint vp w.tables) with _ | j
  · exact translate_fail rfl (by decide) fun ⟨_, _, _, _, hj, _⟩ => Option.noConfusion hj
  obtain ⟨-, hact, hfind⟩ := osObjectIdSearch_some hs
  obtain ⟨hmv, hne, hpfx, hend⟩ := (osFileSysFindVirtMountPoint_iff _ _ _).1 hfind
  set r := w.tables.filesys j
  have hpre : r.virtualMountpt.length ≤ vp.length := by
    have := congrArg List.length hpfx
    simp only [List.length_take, CStr.length] at this ⊢
    omega
  simp only [run_readTables, osUnlockGlobal, run_emit, run_bind, run_pure, Option.some.injEq, exists_eq_left',
    not_le.1 h₁, not_le.1 h₂, not_not.1 h₃, true_and]
  cases hms : r.flags.mountedSystem
  · rw [translateLocked_of_not_mountedSystem cfg hms]
    exact ⟨⟨buf, rfl, rfl⟩, iff_of_false (by simp) (by simp), fun h => absurd h (by simp)⟩
  rw [translateLocked_of_mountedSystem cfg hms, if_pos rfl]
  unfold translateTail
  dsimp only
  rw [if_neg (not_lt.2 hpre)]
  by_cases hL : r.systemMountpt.length + (vp.length - r.virtualMountpt.length) < cfg.maxLocalPathLen
  · rw [if_pos hL, if_pos (by omega), readRange_of_le (by omega),
      List.take_of_length_le (by simp [CStr.length])]
    obtain ⟨b, hb, hlen, htake⟩ := @translate_copies buf r.systemMountpt.chars
      (vp.chars.drop r.virtualMountpt.length) r.systemMountpt.length (vp.length - r.virtualMountpt.length) rfl
      (by simp [CStr.length]) (by omega)
    simp only [Option.bind_eq_bind, Option.some_bind, hb]
    exact ⟨⟨b, rfl, hlen⟩, iff_of_true trivial ⟨trivial, hL⟩,
      fun _ => ⟨j, b, rfl, hact, hmv, hne, hpfx, hend, rfl, htake⟩⟩
  · rw [if_neg hL]
    refine ⟨?_, iff_of_false (by simp) fun h => hL h.2, fun h => absurd h (by simp)⟩
    split_ifs with hs
    · obtain ⟨b, hb, hlen, -⟩ := @writeBuf_some buf 0 r.systemMountpt.chars (by simp [CStr.length] at hs; omega)
      exact ⟨b, hb, hlen⟩
    · exact ⟨buf, rfl, rfl⟩

end

def cfSubFilePath : CStr := ⟨['/', 'c', 'f', '/', 's', 'u', 'b', '/', 'x'], by decide⟩

theorem osTranslatePath_spec_nested :
    (List.replicate 64 '\x00').length = Config.small.maxLocalPathLen ∧
    (∃ b, ((osTranslatePath Config.small (specIdMgr Config.small 0) (some cfSubFilePath)
        (some (List.replicate 64 '\x00'))).run nestedWorld).1.2 = some b ∧
      b.length = (List.replicate 64 '\x00').length) ∧
    (((osTranslatePath Config.small (specIdMgr Config.small 0) (some cfSubFilePath)
        (some (List.replicate 64 '\x00'))).run nestedWorld).1.1 = osSuccess ↔
      cfSubFilePath.length < Config.small.maxPathLen ∧
      (∃ k, strrchr cfSubFilePath '/' = some k ∧ (cfSubFilePath.drop (k + 1)).length < Config.small.maxFileName) ∧
      cfSubFilePath.get 0 = '/' ∧
      ∃ j, osObjectIdSearch nestedWorld.tables osObjectTypeOsFilesys Config.small.maxFileSystems
          (osFileSysFindVirtMountPoint cfSubFilePath nestedWorld.tables) = some j ∧
        (nestedWorld.tables.filesys j).flags.mountedSystem ∧
        (nestedWorld.tables.filesys j).systemMountpt.length +
            (cfSubFilePath.length - (nestedWorld.tables.filesys j).virtualMountpt.length) <
          Config.small.maxLocalPathLen) ∧
    (((osTranslatePath Config.small (specIdMgr Config.small 0) (some cfSubFilePath)
        (some (List.replicate 64 '\x00'))).run nestedWorld).1.1 = osSuccess →
      ∃ j b, osObjectIdSearch nestedWorld.tables osObjectTypeOsFilesys Config.small.maxFileSystems
          (osFileSysFindVirtMountPoint cfSubFilePath nestedWorld.tables) = some j ∧
        nestedWorld.tables.fsActive j ∧ (nestedWorld.tables.filesys j).flags.mountedVirtual ∧
        0 < (nestedWorld.tables.filesys j).virtualMountpt.length ∧
        cfSubFilePath.chars.take (nestedWorld.tables.filesys j).virtualMountpt.length =
          (nestedWorld.tables.filesys j).virtualMountpt.chars ∧
        (cfSubFilePath.get (nestedWorld.tables.filesys j).virtualMountpt.length = '/' ∨
          cfSubFilePath.get (nestedWorld.tables.filesys j).virtualMountpt.length = '\x00') ∧
        ((osTranslatePath Config.small (specIdMgr Config.small 0) (some cfSubFilePath)
          (some (List.replicate 64 '\x00'))).run nestedWorld).1.2 = some b ∧
        b.take ((nestedWorld.tables.filesys j).systemMountpt.length +
            (cfSubFilePath.length - (nestedWorld.tables.filesys j).virtualMountpt.length) + 1) =
          (nestedWorld.tables.filesys j).systemMountpt.chars ++
            cfSubFilePath.chars.drop (nestedWorld.tables.filesys j).virtualMountpt.length ++ ['\x00']) :=
  ⟨by decide, osTranslatePath_spec 0 cfSubFilePath (List.replicate 64 '\x00') (by decide)⟩

/-- Under the nested mounts, "/cf/sub/x" translates through the first record whose mount point is
a prefix of it, the one at "/cf": the result is "d1" followed by "/sub/x". -/
example :
    ((osTranslatePath Config.small (specIdMgr Config.small 0) (some cfSubFilePath)
        (some (List.replicate 64 '\x00'))).run nestedWorld).1.2.map (List.take 9) =
      some ['d', '1', '/', 's', 'u', 'b', '/', 'x', '\x00'] := by
  decide

end Osal
