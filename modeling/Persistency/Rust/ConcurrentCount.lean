import Persistency.Rust.ConcurrentCalls

namespace Persistency.Rust
set_option autoImplicit true

/-- The number of snapshots once the call that holds the data has returned. -/
def History.lengthAfter (max : Nat) (s : History) : Option Call → Nat
  | some .flush => min (s.hist.length + 1) max
  | _ => s.hist.length

theorem History.call_length (max : Nat) (s : History) (request : Call) :
    (s.call max request).1.hist.length = s.lengthAfter max (some request) := by
  cases request with
  | flush => exact List.length_take.trans (Nat.min_comm _ _)
  | resetKey key | removeKey key | snapshotRestore id =>
    simp only [call]
    split
    · rfl
    · rfl
  | _ => rfl

theorem History.le_lengthAfter {max : Nat} {s : History} (hs : s.hist.length ≤ max)
    (pending : Option Call) :
    s.hist.length ≤ s.lengthAfter max pending := by
  unfold lengthAfter
  split
  · omega
  · exact Nat.le_refl _

theorem History.lengthAfter_le {max : Nat} {s : History} (hs : s.hist.length ≤ max)
    (pending : Option Call) :
    s.lengthAfter max pending ≤ max := by
  unfold lengthAfter
  split
  · omega
  · exact hs

section Journal

variable {c : Crates} {backend : JsonBackend} {i : InstanceId} {hist : List KvsMap} {disk : Fs}

theorem Keeps.flush_touches (h : Keeps c backend i hist disk) (hc : c.TinyJson) (m : KvsMap)
    (hmax : 0 < backend.snapshotMaxCount)
    (hk : min (hist.length + 1) backend.snapshotMaxCount ≤ k) :
    ∀ s ∈ (backend.flush c i m disk).2, ¬ s.Touches (backend.kvsFilePath i k) := by
  have hfamilies := backend.families i
  obtain ⟨rest, hj, hrest⟩ := h.flush_journal hc m
  rw [hj]
  intro s hs ht
  rcases List.mem_append.1 hs with hs | hs
  · obtain ⟨n, hn, hp⟩ := Disk.shiftUp_touches hs ht
    rcases hp with hp | hp
    · exact hfamilies.disjoint n k hp.symm
    · have hkn := hfamilies.inj_right hp
      omega
  · rcases hrest with ⟨-, rfl⟩ | ⟨-, text, rfl, -⟩
    · cases hs
    · simp only [saveSteps, List.mem_cons, List.not_mem_nil, or_false] at hs
      rcases hs with rfl | rfl
      · have hk0 := hfamilies.inj_right ht
        omega
      · exact hfamilies.disjoint 0 k ht.symm

end Journal

theorem Call.task_flush_exec (c : Crates) (parameters : KvsParameters) (data : KvsData)
    (hmax : 0 < parameters.backend.snapshotMaxCount) (disk : Fs) :
    ((Call.flush.task c parameters data).exec disk).2 =
      (parameters.backend.flush c parameters.instanceId data.kvsMap disk).2 := by
  have hne : Kvs.snapshotMaxCount parameters ≠ 0 := Nat.ne_of_gt hmax
  rw [task, if_neg hne, Disk.Task.exec_bind, ← JsonBackend.prog_flushTask]
  exact List.append_nil _

namespace Handles

variable {T : Type} [DecidableEq T] {c : Crates} {h : Handles} {stores : InstanceId → History}

variable (h stores)

def slots (s : Config T) (i : InstanceId) : Nat :=
  (h.store stores s i).lengthAfter (h.parameters i).backend.snapshotMaxCount (s.pending i)

variable {h stores} {data : InstanceId → KvsData} {disk : Fs} {s s' : Config T}
  {acts : List (Guarded.Action InstanceId T Call)}

omit [DecidableEq T] in
theorem Runs.kvs_none (hs : Runs c h stores s) (hc : c.TinyJson) (hk : h.slots stores s i ≤ k) :
    s.disk ((h.parameters i).backend.kvsFilePath i k) = none := by
  obtain ⟨base, hstands, hstand⟩ := hs.base
  have hkeeps := (hstand i).keeps
  have hfile := (h.parameters i).backend.kvsFilePath_file i k
  have hbase := hkeeps.kvs_none (Nat.le_trans (History.le_lengthAfter hkeeps.bound _) hk)
  cases hp : s.pending i with
  | none => exact (hstands.free i (hstands.pending_none hp) _ hfile).trans hbase
  | some request =>
    obtain ⟨t, todo, disk, -, -, hreach, hagree⟩ := hstands.pending_some hp
    obtain ⟨n, hn⟩ := Disk.Task.reaches_journal hreach
    have hframe : ∀ st ∈ ((request.task c (h.parameters i) (base.1 i)).exec base.2).2,
        ¬ st.Touches ((h.parameters i).backend.kvsFilePath i k) := by
      by_cases hflush : request = .flush → (h.parameters i).backend.snapshotMaxCount = 0
      · rw [(request.task_silent c (h.parameters i) (base.1 i) hflush).exec]
        exact fun _ hst => absurd hst List.not_mem_nil
      · obtain ⟨rfl, hmax⟩ := Classical.not_imp.1 hflush
        rw [Call.task_flush_exec c _ _ (Nat.pos_of_ne_zero hmax), h.instanceId]
        apply hkeeps.flush_touches hc _ (Nat.pos_of_ne_zero hmax)
        rwa [slots, hp] at hk
    rw [hagree _ hfile, show disk = _ from hn]
    exact (Disk.replay_frame _ _ fun st hst => hframe st (List.mem_of_mem_take hst)).trans hbase

omit [DecidableEq T] in
theorem store_append {e : Guarded.Entry InstanceId T Call (Except ErrorCode Answer)}
    (hlog : s'.log = s.log ++ [e]) :
    h.store stores s' = (h.abstract (h.store stores s) e.call).1 := by
  funext j
  rw [store, hlog, List.map_append, Transition.run_append]
  rfl

theorem slots_le_step (hs : Runs c h stores s) (hstep : (h.calls c).step s act = some s')
    (i : InstanceId) : h.slots stores s i ≤ h.slots stores s' i := by
  obtain ⟨base, hstands, hstand⟩ := hs.base
  have hbound := (hstand i).keeps.bound
  cases hstands.touches hstep i with
  | nothing hp hlog =>
    rw [slots, slots, store, store, hp, hlog]
  | other e he hp hlog =>
    rw [slots, slots, hp, store_append hlog, abstract]
    simp only [Guarded.Entry.call, Function.update_of_ne (Ne.symm he)]
    exact Nat.le_refl _
  | begins a hp hp' hlog =>
    have hstore : h.store stores s' = h.store stores s := by
      funext j
      rw [store, store, hlog]
    rw [slots, slots, hp, hp', hstore]
    exact History.le_lengthAfter hbound _
  | returns e he hp hp' hlog =>
    subst he
    rw [slots, slots, hp, hp', store_append hlog, abstract]
    simp only [Guarded.Entry.call, Function.update_self]
    exact (History.call_length _ _ _).ge

/-- A count under way: it looks at one file after the other and has found each one so far. -/
def Counting (h : Handles) (i : InstanceId) (bound : Nat)
    (todo : Disk.Task Path Bytes (Except ErrorCode Answer × KvsData)) : Prop :=
  ∃ idx n data, idx ≤ bound ∧ todo = do
    let count ← (h.parameters i).backend.countTask i idx idx n
    pure (.ok (.count count), data)

theorem Counting.start (h : Handles) (c : Crates) (data : KvsData) :
    Counting h i bound (Call.snapshotCount.task c (h.parameters i) data) := by
  refine ⟨0, (h.parameters i).backend.snapshotMaxCount, data, Nat.zero_le _, ?_⟩
  rw [Call.task, h.instanceId]
  rfl

theorem Counting.step (hcount : Counting h i bound todo)
    (hnone : ∀ k, bound ≤ k → disk ((h.parameters i).backend.kvsFilePath i k) = none)
    (hstep : todo.step disk = some (todo', disk')) : Counting h i bound todo' := by
  obtain ⟨idx, n, data, hidx, rfl⟩ := hcount
  cases n with
  | zero => cases hstep
  | succ n =>
    cases hstep
    by_cases hfound : (disk ((h.parameters i).backend.kvsFilePath i idx)).isSome
    · have hlt : idx < bound := by
        apply Nat.lt_of_not_le
        intro hle
        rw [hnone idx hle] at hfound
        cases hfound
      refine ⟨idx + 1, n, data, hlt, ?_⟩
      simp only [hfound, ↓reduceIte]
      rfl
    · refine ⟨idx, 0, data, hidx, ?_⟩
      simp only [hfound, Bool.false_eq_true, ↓reduceIte]
      rfl

/-- Every count, returned or under way, is at most the number of slots. -/
structure Watched (h : Handles) (slots : InstanceId → Nat) (s : Config T) : Prop where
  beside : ∀ t i todo, s.phase t = .beside i .snapshotCount todo → Counting h i (slots i) todo
  seen : ∀ e ∈ s.seen, e.request = .snapshotCount →
    ∃ n, e.reply = .ok (.count n) ∧ n ≤ slots e.object

omit [DecidableEq T] in
theorem Watched.mono (hs : Watched h bound s) (hle : ∀ i, bound i ≤ bound' i) :
    Watched h bound' s := by
  refine ⟨?_, ?_⟩
  · intro t i todo hphase
    obtain ⟨idx, n, data, hidx, htodo⟩ := hs.beside t i todo hphase
    exact ⟨idx, n, data, Nat.le_trans hidx (hle i), htodo⟩
  · intro e he hrequest
    obtain ⟨n, hreply, hn⟩ := hs.seen e he hrequest
    exact ⟨n, hreply, Nat.le_trans hn (hle _)⟩

theorem Watched.besides {bound : InstanceId → Nat} (hs : Watched h bound s)
    (hphase : s'.phase = Function.update s.phase t next)
    (hnext : ∀ i todo, next = .beside i .snapshotCount todo → Counting h i (bound i) todo)
    (u : T) (i : InstanceId) (todo : Disk.Task Path Bytes (Except ErrorCode Answer × KvsData))
    (hu : s'.phase u = .beside i .snapshotCount todo) : Counting h i (bound i) todo := by
  rw [hphase] at hu
  by_cases hut : u = t
  · rw [hut, Function.update_self] at hu
    exact hnext i todo hu
  · rw [Function.update_of_ne hut] at hu
    exact hs.beside u i todo hu

theorem Watched.step {bound : InstanceId → Nat} (hs : Watched h bound s)
    (hnone : ∀ i k, bound i ≤ k → s.disk ((h.parameters i).backend.kvsFilePath i k) = none)
    (hstep : (h.calls c).step s act = some s') : Watched h bound s' := by
  cases Guarded.Calls.step_effect hstep with
  | call hphase hl | lock hphase hx =>
    refine ⟨hs.besides rfl ?_, hs.seen⟩
    intro i todo hnext
    cases hnext
  | callBeside hphase hl =>
    refine ⟨hs.besides rfl ?_, hs.seen⟩
    intro i todo hnext
    cases hnext
    exact .start h c _
  | refuse hphase hx hb => cases hb
  | advance hphase htodo =>
    refine ⟨hs.besides rfl ?_, hs.seen⟩
    intro i todo hnext
    cases hnext
  | advanceBeside hphase htodo =>
    refine ⟨hs.besides rfl ?_, hs.seen⟩
    intro i todo hnext
    cases hnext
    exact (hs.beside _ _ _ hphase).step (hnone _) htodo
  | unlock hphase =>
    refine ⟨hs.besides rfl ?_, hs.seen⟩
    intro i todo hnext
    cases hnext
  | @leave t x a o d hphase =>
    refine ⟨hs.besides rfl ?_, ?_⟩
    · intro i todo hnext
      cases hnext
    · intro e he hrequest
      rcases List.mem_append.1 he with he | he
      · exact hs.seen e he hrequest
      · cases List.mem_singleton.1 he
        cases hrequest
        obtain ⟨idx, n, data, hidx, htodo⟩ := hs.beside t x _ hphase
        cases n with
        | zero =>
          cases htodo
          exact ⟨idx, rfl, hidx⟩
        | succ n => cases htodo

structure Overseen (c : Crates) (h : Handles) (stores : InstanceId → History)
    (data : InstanceId → KvsData) (disk : Fs) (s : Config T) : Prop where
  serial : Guarded.Calls.Serial (h.calls c) (data, disk) s
  asked : Guarded.Calls.Asked (fun r => r.2.Exact) s
  watched : Watched h (h.slots stores s) s

omit [DecidableEq T] in
theorem Overseen.start (data : InstanceId → KvsData) (disk : Fs) :
    Overseen c h stores data disk (.start data disk : Config T) := by
  refine ⟨.start data disk, .start data disk, ?_, ?_⟩
  · intro t i todo hphase
    cases hphase
  · intro e he
    cases he

theorem Overseen.step (hs : Overseen c h stores data disk s) (hc : c.TinyJson)
    (hstart : h.Stand c (data, disk) stores)
    (hact : ∀ t i request, act = .call t i request → request.Exact)
    (hstep : (h.calls c).step s act = some s') : Overseen c h stores data disk s' := by
  have hruns := runs_of_serial hc hstart hs.serial hs.asked
  refine ⟨hs.serial.step hstep, hs.asked.step hact hstep, ?_⟩
  have hwatched := hs.watched.step (fun i k hk => hruns.kvs_none hc hk) hstep
  exact hwatched.mono (slots_le_step hruns hstep)

/-- In every interleaving each number that `snapshot_count` returns is at most the number of the
snapshots there are once the flush under way has returned, and so at most the maximum. -/
theorem snapshotCount_bounded (hc : c.TinyJson) (hstart : h.Stand c (data, disk) stores)
    (hacts : ∀ t i request, .call t i request ∈ acts → request.Exact)
    (hrun : Transition.exec (h.calls c).step (.start data disk) acts = some s)
    (e : Guarded.Entry InstanceId T Call (Except ErrorCode Answer)) (he : e ∈ s.seen)
    (hrequest : e.request = .snapshotCount) :
    ∃ n, e.reply = .ok (.count n) ∧ n ≤ h.slots stores s e.object ∧
      h.slots stores s e.object ≤ (h.parameters e.object).backend.snapshotMaxCount := by
  obtain ⟨hserial, hasked, hwatched⟩ := Transition.exec_invariant
    (fun _ _ _ hs hact hstep => hs.step hc hstart hact hstep)
    (Overseen.start data disk)
    (Guarded.Calls.always_asked (Q := fun r => r.2.Exact) hacts _) hrun
  obtain ⟨n, hreply, hn⟩ := hwatched.seen e he hrequest
  obtain ⟨base, -, hstand⟩ := (runs_of_serial hc hstart hserial hasked).base
  exact ⟨n, hreply, hn, History.lengthAfter_le (hstand _).keeps.bound _⟩

theorem snapshotCount_bounded_flush : ∃ (c : Crates) (s : Config Nat),
    Transition.exec (single.calls c).step (.start (fun _ => ⟨.empty, .empty⟩) fun _ => none)
      [.call 0 0 .flush, .lock 0, .call 1 0 .snapshotCount, .advance 0, .advance 1, .unlock 1] =
        some s ∧
    s.seen = [⟨0, 1, .snapshotCount, .ok (.count 0)⟩] ∧
    single.slots (fun _ => .start) s 0 = 1 ∧
    ∃ n, (.ok (.count 0) : Except ErrorCode Answer) = .ok (.count n) ∧
      n ≤ single.slots (fun _ => .start) s 0 ∧ single.slots (fun _ => .start) s 0 ≤ 3 := by
  obtain ⟨c, hc, -⟩ := exists_crates answer answer_exact.1 answerText
  have hrun : ∃ s : Config Nat,
      Transition.exec (single.calls c).step (.start (fun _ => ⟨.empty, .empty⟩) fun _ => none)
        [.call 0 0 .flush, .lock 0, .call 1 0 .snapshotCount, .advance 0, .advance 1,
          .unlock 1] = some s ∧
      s.seen = [⟨0, 1, .snapshotCount, .ok (.count 0)⟩] ∧
      single.slots (fun _ => .start) s 0 = 1 := ⟨_, rfl, rfl, rfl⟩
  obtain ⟨s, hrun, hseen, hslots⟩ := hrun
  refine ⟨c, s, hrun, hseen, hslots, ?_⟩
  refine snapshotCount_bounded hc (single_stand c) ?_ hrun ⟨0, 1, .snapshotCount, _⟩ ?_ rfl
  · intro t i request hmem
    simp only [List.mem_cons, List.not_mem_nil, Guarded.Action.call.injEq, reduceCtorEq,
      false_or, or_false] at hmem
    rcases hmem with ⟨-, -, rfl⟩ | ⟨-, -, rfl⟩
    · trivial
    · trivial
  · rw [hseen]
    exact List.mem_singleton_self _

section Quiet

variable {i : InstanceId} {t : T}

/-- A count under way that will find all snapshots. -/
structure Finding (c : Crates) (h : Handles) (stores : InstanceId → History)
    (data : InstanceId → KvsData) (disk : Fs) (i : InstanceId) (t : T) (n : Nat) (s : Config T) :
    Prop where
  serial : Guarded.Calls.Serial (h.calls c) (data, disk) s
  asked : Guarded.Calls.Asked (fun r => r.2.Exact) s
  finds : ∃ todo, s.phase t = .beside i .snapshotCount todo ∧ todo.Within (InstanceFile i) ∧
    (todo.run s.disk).1.1 = .ok (.count n)
  length : (h.store stores s i).hist.length = n

theorem store_length_step (hs : Runs c h stores s) (hstep : (h.calls c).step s act = some s')
    (hquiet : s.pending i ≠ some .flush) :
    (h.store stores s' i).hist.length = (h.store stores s i).hist.length := by
  obtain ⟨base, hstands, -⟩ := hs.base
  cases hstands.touches hstep i with
  | nothing hp hlog => rw [store, store, hlog]
  | begins a hp hp' hlog => rw [store, store, hlog]
  | other e he hp hlog =>
    rw [store_append hlog, abstract]
    simp only [Guarded.Entry.call, Function.update_of_ne (Ne.symm he)]
  | returns e he hp hp' hlog =>
    subst he
    rw [store_append hlog, abstract]
    simp only [Guarded.Entry.call, Function.update_self]
    rw [History.call_length]
    unfold History.lengthAfter
    split
    · rename_i hflush
      exact absurd (hp.trans hflush) hquiet
    · rfl

theorem Finding.step (hs : Finding c h stores data disk i t n s) (hc : c.TinyJson)
    (hstart : h.Stand c (data, disk) stores)
    (hact : ∀ t i request, act = .call t i request → request.Exact)
    (hquiet : s.pending i ≠ some .flush) (ht : act ≠ .unlock t)
    (hstep : (h.calls c).step s act = some s') : Finding c h stores data disk i t n s' := by
  obtain ⟨todo, hphase, hwithin, hrun⟩ := hs.finds
  have hruns := runs_of_serial hc hstart hs.serial hs.asked
  have hfiles : ∀ p, InstanceFile i p → s'.disk p = s.disk p := by
    apply hs.serial.stands.step_files hstep
    intro request hp d
    apply request.task_silent c (h.parameters i) d
    rintro rfl
    exact absurd hp hquiet
  have hrun' : (todo.run s'.disk).1.1 = .ok (.count n) := by
    rw [(hwithin.run_congr hfiles).1, hrun]
  have hlength := (store_length_step hruns hstep hquiet).trans hs.length
  refine ⟨hs.serial.step hstep, hs.asked.step hact hstep, ?_, hlength⟩
  rcases Guarded.Calls.step_beside hstep hphase ht with hphase' | ⟨todo', htodo, hphase'⟩
  · exact ⟨todo, hphase', hwithin, hrun'⟩
  · refine ⟨todo', hphase', (hwithin.step htodo).1, ?_⟩
    rw [Disk.Task.run_step htodo, hrun]

omit [DecidableEq T] in
theorem Runs.keeps_quiet (hs : Runs c h stores s) (hquiet : s.pending i ≠ some .flush) :
    Keeps c (h.parameters i).backend i (h.store stores s i).hist s.disk := by
  obtain ⟨base, hstands, hstand⟩ := hs.base
  refine ((hstand i).congr ?_).keeps
  intro p hp
  cases hpending : s.pending i with
  | none => exact hstands.free i (hstands.pending_none hpending) p hp
  | some request =>
    obtain ⟨u, todo, disk, -, -, hreach, hagree⟩ := hstands.pending_some hpending
    obtain ⟨n, hn⟩ := Disk.Task.reaches_journal hreach
    have hsilent := request.task_silent c (h.parameters i) (base.1 i) (by
      rintro rfl
      exact absurd hpending hquiet)
    rw [hagree p hp, show disk = _ from hn]
    change Disk.replay base.2 (List.take n ((request.task c _ _).exec base.2).2) p = base.2 p
    rw [hsilent.exec, List.take_nil]
    rfl

theorem Finding.call (hc : c.TinyJson) (hstart : h.Stand c (data, disk) stores)
    (hserial : Guarded.Calls.Serial (h.calls c) (data, disk) s)
    (hasked : Guarded.Calls.Asked (fun r => r.2.Exact) s) (hquiet : s.pending i ≠ some .flush)
    (hstep : (h.calls c).step s (.call t i .snapshotCount) = some s') :
    Finding c h stores data disk i t (h.store stores s i).hist.length s' := by
  have hruns := runs_of_serial hc hstart hserial hasked
  have hasked' : Guarded.Calls.Asked (fun r => r.2.Exact) s' := by
    apply hasked.step _ hstep
    intro u j request hact
    cases hact
    trivial
  refine ⟨hserial.step hstep, hasked', ?_, store_length_step hruns hstep hquiet⟩
  cases Guarded.Calls.step_effect hstep with
  | call hphase hl => cases hl
  | callBeside hphase hl =>
    have hwithin := (h.calls c).within i .snapshotCount (s.memory i)
    have hcount := (hruns.keeps_quiet hquiet).snapshotCount
    refine ⟨_, Function.update_self .., hwithin, ?_⟩
    have hrun := Call.task_run c (h.parameters i) (s.memory i) .snapshotCount s.disk
    refine (congrArg (fun r => r.1.1) hrun).trans ?_
    rw [Call.perform, Kvs.snapshotCount, h.instanceId, hcount]
    rfl

/-- When no flush of its instance holds the data at any of the steps from the call of
`snapshot_count` to its return, the number returned is the number of snapshots. -/
theorem snapshotCount_exact (hc : c.TinyJson) (hstart : h.Stand c (data, disk) stores)
    (hacts : ∀ t i request, .call t i request ∈ acts → request.Exact)
    (hrun : Transition.exec (h.calls c).step (.start data disk) acts = some s)
    (hquiet : s.pending i ≠ some .flush)
    (hcall : (h.calls c).step s (.call t i .snapshotCount) = some s₁)
    (hacts' : ∀ t i request, .call t i request ∈ acts' → request.Exact)
    (hrun' : Transition.exec (h.calls c).step s₁ acts' = some s₂)
    (halways : Transition.Always (h.calls c).step
      (fun s act => s.pending i ≠ some .flush ∧ act ≠ .unlock t) s₁ acts')
    (hreturn : (h.calls c).step s₂ (.unlock t) = some s₃) :
    s₃.seen = s₂.seen ++
      [⟨i, t, .snapshotCount, .ok (.count (h.store stores s₃ i).hist.length)⟩] := by
  have hserial := Guarded.Calls.serial_reachable hrun
  have hasked := Guarded.Calls.asked_reachable (Q := fun r => r.2.Exact) hacts hrun
  have hfinding := Finding.call hc hstart hserial hasked hquiet hcall
  have hends := Transition.exec_invariant (P := fun s act => (s.pending i ≠ some .flush ∧
      act ≠ .unlock t) ∧ ∀ t i request, act = .call t i request → request.Exact)
    (fun _ _ _ hs hp hstep => hs.step hc hstart hp.2 hp.1.1 hp.1.2 hstep) hfinding
    (halways.and (Guarded.Calls.always_asked (Q := fun r => r.2.Exact) hacts' _)) hrun'
  obtain ⟨todo, hphase, -, htodo⟩ := hends.finds
  cases Guarded.Calls.step_effect hreturn with
  | unlock hphase' => cases hphase.symm.trans hphase'
  | leave hphase' =>
    cases hphase.symm.trans hphase'
    rw [Disk.Task.run_done] at htodo
    subst htodo
    rw [← hends.length]
    rfl

theorem snapshotCount_exact_quiet : ∃ (c : Crates) (s : Config Nat),
    Transition.exec (single.calls c).step (.start (fun _ => ⟨.empty, .empty⟩) fun _ => none)
      [.call 0 0 .reset, .lock 0, .call 1 0 .snapshotCount, .unlock 0, .advance 1,
        .unlock 1] = some s ∧
    s.seen = [⟨0, 1, .snapshotCount, .ok (.count 0)⟩] := by
  obtain ⟨c, hc, -⟩ := exists_crates answer answer_exact.1 answerText
  have hacts (t : Nat) (i : InstanceId) (request : Call)
      (hmem : .call t i request ∈
        ([.call 0 0 .reset, .lock 0] : List (Guarded.Action InstanceId Nat Call))) :
      request.Exact := by
    simp only [List.mem_cons, List.not_mem_nil, Guarded.Action.call.injEq, reduceCtorEq,
      or_false] at hmem
    obtain ⟨-, -, rfl⟩ := hmem
    trivial
  have hacts' (t : Nat) (i : InstanceId) (request : Call)
      (hmem : .call t i request ∈
        ([.unlock 0, .advance 1] : List (Guarded.Action InstanceId Nat Call))) :
      request.Exact := by
    simp only [List.mem_cons, List.not_mem_nil, reduceCtorEq, or_false] at hmem
  refine ⟨c, _, rfl, snapshotCount_exact (h := single) (i := 0) (t := 1) hc (single_stand c) hacts
    rfl ?_ rfl hacts' rfl
    (Transition.always_cons ⟨?_, ?_⟩ rfl (Transition.always_cons ⟨?_, ?_⟩ rfl trivial)) rfl⟩
  · intro h
    cases h
  · intro h
    cases h
  · intro h
    cases h
  · intro h
    cases h
  · intro h
    cases h

end Quiet

end Handles

end Persistency.Rust
