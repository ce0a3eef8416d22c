import NeoPG.Keyserver.Get

/-!
# The line-length budget of a `KS_GET` request

`keyserver_get_chunk` charges each pattern against `MAX_KS_GET_LINELEN` before it takes it, so
that the dirmngr's `KS_GET --quick --` line, followed by the patterns each after a space, stays
within what the dirmngr accepts.  The charge starts at 17 for the command and is an estimate per
mode: `1 + 2 + 2 * 20` for both fingerprint kinds, `1 + 2 + 16` and `1 + 2 + 8` for key ids,
`1 + 1 + strlen (name)` for an exact name.  The break before a pattern that would pass the
budget is skipped at index `0`, so that a name too long for any request still goes out, alone.

* `getChunkLoop_induct` is the loop's run lemma: a property that every skipped descriptor and
  every pattern taken preserves holds where the loop stops.
* `ksGetItem_pattern` ties the estimates to the patterns the encoders build: an estimate covers
  its pattern and the space before it, and only an `EXACT` name is charged more than fits after
  the command.
* **`keyserverGetChunk_lineLength`**: every request sent has the length `17 + Σ (1 + strlen p)`;
  with two patterns or more it is within the budget, and one over the budget is a single
  `=`-prefixed name of the array.
* `keyserverGetChunk_emptyRequest`: the break tests the index, not the patterns built, so a
  request goes out empty only when the descriptors consumed are all `NONE` and they are all of
  them, or the next one is a name over the budget on its own.  `keyserverGet_noneThenName`
  shows `keyserver_get` sending such an empty request before the name.
* **`keyserverGet_emptyRequest`**: that condition, and that on a non-empty array without
  `NONE`, the only kind the callers of `keyserver_get` build, no chunk call sends an empty
  request.
-/

namespace NeoPG

variable {S : Type}

/-! ## The request line -/

/-- The line the dirmngr sends for a chunk's patterns: `KS_GET --quick --` and each pattern
after a space. -/
def ksGetLine (pats : List CStr) : CStr :=
  "KS_GET --quick --".toList ++ (pats.map (' ' :: ·)).flatten

/-- What the patterns add to the request line: each one and the space before it. -/
def patternCost (pats : List CStr) : Nat := (pats.map fun p => 1 + p.length).sum

@[simp] lemma patternCost_nil : patternCost [] = 0 := rfl

@[simp] lemma patternCost_append (pats : List CStr) (p : CStr) :
    patternCost (pats ++ [p]) = patternCost pats + (1 + p.length) := by
  induction pats with
  | nil => simp [patternCost]
  | cons q pats ih =>
    simp only [patternCost, List.cons_append, List.map_cons, List.sum_cons] at ih ⊢
    omega

lemma length_ksGetLine (pats : List CStr) : (ksGetLine pats).length = 17 + patternCost pats := by
  induction pats with
  | nil => rfl
  | cons p pats ih =>
    simp only [ksGetLine, patternCost, List.length_append, List.map_cons, List.flatten_cons,
      List.sum_cons, List.length_cons] at ih ⊢
    omega

/-! ## The estimates -/

/-- An estimate covers its pattern and the space before it, and only an `EXACT` name is charged
more than the budget leaves after the command. -/
lemma ksGetItem_pattern {d : KeydbSearchDesc} {n : Nat} {p : CStr}
    (h : ksGetItem d = .pattern n p) :
    1 + p.length ≤ n ∧
      (maxKsGetLinelen < 17 + n → ∃ name, d = .exact name ∧ p = '=' :: name ∧
        n = 2 + name.length) := by
  cases d <;> simp only [ksGetItem, KsGetItem.pattern.injEq, reduceCtorEq] at h <;>
    obtain ⟨rfl, rfl⟩ := h <;> simp [maxKsGetLinelen]
  omega

lemma ksGetItem_skip {d : KeydbSearchDesc} (h : ksGetItem d = .skip) : d = .none := by
  cases d <;> simp_all [ksGetItem]

/-! ## The loop's run lemma -/

section Induct

variable {allocOk : Nat → Bool} {all : List KeydbSearchDesc} (J : Nat → Nat → List CStr → Prop)

/-- **The loop's run lemma.**  A property of the loop's position that every descriptor of `all`
it skips and every pattern it takes preserves holds where it stops, with some charge. -/
lemma getChunkLoop_induct
    (hskip : ∀ {d idx linelen pattern}, d ∈ all → ksGetItem d = .skip →
      J idx linelen pattern → J (idx + 1) linelen pattern)
    (htake : ∀ {d n p idx linelen pattern}, d ∈ all → ksGetItem d = .pattern n p →
      ¬(idx ≠ 0 ∧ linelen + n > maxKsGetLinelen) → J idx linelen pattern →
      J (idx + 1) (linelen + n) (pattern ++ [p])) :
    ∀ (desc : List KeydbSearchDesc) (idx linelen : Nat) (pattern : List CStr) {idx' : Nat}
      {pattern' : List CStr}, desc ⊆ all → J idx linelen pattern →
      getChunkLoop allocOk desc idx linelen pattern = .done idx' pattern' →
      ∃ linelen', J idx' linelen' pattern'
  | [], _, linelen, _, _, _, _, hJ, h => by
    cases h
    exact ⟨linelen, hJ⟩
  | d :: rest, idx, linelen, pattern, _, _, hsub, hJ, h => by
    have hd := hsub (List.mem_cons_self d rest)
    have hrest := (List.cons_subset.mp hsub).2
    unfold getChunkLoop at h
    split at h
    · rename_i hitem
      exact getChunkLoop_induct hskip htake rest _ _ _ hrest (hskip hd hitem hJ) h
    · cases h
    · rename_i n p hitem
      split_ifs at h with hbrk halloc
      · cases h
        exact ⟨linelen, hJ⟩
      · exact getChunkLoop_induct hskip htake rest _ _ _ hrest (htake hd hitem hbrk hJ) h

end Induct

/-! ## The budget -/

/-- Where the pattern loop stands, as far as the request line goes: the charge covers the line
built so far, two patterns or more are within the budget, a line over the budget holds one
`EXACT` name of `desc`, and nothing has been built or charged before the first descriptor. -/
structure LineBudget (desc : List KeydbSearchDesc) (idx linelen : Nat) (pattern : List CStr) :
    Prop where
  cost_le : 17 + patternCost pattern ≤ linelen
  two_le : 2 ≤ pattern.length → linelen ≤ maxKsGetLinelen
  over : maxKsGetLinelen < linelen → ∃ name, pattern = ['=' :: name] ∧ .exact name ∈ desc
  start : idx = 0 → pattern = [] ∧ linelen = 17

lemma lineBudget_start (desc : List KeydbSearchDesc) : LineBudget desc 0 17 [] :=
  ⟨le_rfl, by simp, by simp [maxKsGetLinelen], fun _ => ⟨rfl, rfl⟩⟩

lemma LineBudget.skip {desc : List KeydbSearchDesc} {idx linelen : Nat} {pattern : List CStr}
    (h : LineBudget desc idx linelen pattern) : LineBudget desc (idx + 1) linelen pattern :=
  ⟨h.cost_le, h.two_le, h.over, fun h0 => absurd h0 (Nat.succ_ne_zero idx)⟩

/-- A pattern taken keeps the budget: past the first descriptor it was taken within the budget,
and at the first one it is the only pattern. -/
lemma LineBudget.take {desc : List KeydbSearchDesc} {d : KeydbSearchDesc} {n : Nat} {p : CStr}
    {idx linelen : Nat} {pattern : List CStr} (hd : d ∈ desc) (hitem : ksGetItem d = .pattern n p)
    (hbrk : ¬(idx ≠ 0 ∧ linelen + n > maxKsGetLinelen)) (h : LineBudget desc idx linelen pattern) :
    LineBudget desc (idx + 1) (linelen + n) (pattern ++ [p]) := by
  obtain ⟨hcost, hover⟩ := ksGetItem_pattern hitem
  refine ⟨by simp only [patternCost_append]; have := h.cost_le; omega, fun h2 => ?_, fun hlt => ?_,
    fun h0 => absurd h0 (Nat.succ_ne_zero idx)⟩
  · have hne : pattern ≠ [] := by rintro rfl; simp at h2
    have hidx : idx ≠ 0 := fun h0 => hne (h.start h0).1
    omega
  · by_cases hidx : idx = 0
    · obtain ⟨rfl, rfl⟩ := h.start hidx
      obtain ⟨name, rfl, rfl, -⟩ := hover hlt
      exact ⟨name, rfl, hd⟩
    · omega

/-- **Every request is within the budget, or one name.**  For any descriptor array, the
patterns `keyserver_get_chunk` hands to `gpg_dirmngr_ks_get` make a request line of length
`17 + Σ (1 + strlen p)`; with two patterns or more it is at most `MAX_KS_GET_LINELEN`, and a
line longer than that holds one pattern, `=` and an `EXACT` name of the array. -/
theorem keyserverGetChunk_lineLength (env : ChunkEnv S) (desc : List KeydbSearchDesc)
    {r : ChunkReport S} (hr : keyserverGetChunk env desc = .ok r) {pats : List CStr}
    (hp : r.request = some pats) :
    (ksGetLine pats).length = 17 + patternCost pats ∧
      (2 ≤ pats.length → (ksGetLine pats).length ≤ maxKsGetLinelen) ∧
      (maxKsGetLinelen < (ksGetLine pats).length →
        ∃ name, pats = ['=' :: name] ∧ .exact name ∈ desc) := by
  unfold keyserverGetChunk at hr
  split_ifs at hr
  · split at hr
    · rename_i idx pattern hl
      cases hr
      simp only [sendChunk_request, Option.some.injEq] at hp
      subst hp
      obtain ⟨linelen, hb⟩ := getChunkLoop_induct (LineBudget desc) (fun _ _ h => h.skip)
        (fun hd hitem hbrk h => h.take hd hitem hbrk) desc 0 17 [] (List.Subset.refl _)
        (lineBudget_start desc) hl
      rw [length_ksGetLine]
      exact ⟨rfl, fun h2 => by have := hb.two_le h2; have := hb.cost_le; omega,
        fun hlt => hb.over (by have := hb.cost_le; omega)⟩
    · cases hr; cases hp
    · cases hr
  · cases hr; cases hp

/-- Two patterns: a short key id and a one-byte name make a line of 32 bytes. -/
theorem keyserverGetChunk_lineLength_keyAndName :
    keyserverGetChunk (⟨fun _ => true, .ok ()⟩ : ChunkEnv Unit) [.shortKid 1, .exact ['a']] =
        .ok ⟨2, some ["0x00000001".toList, "=a".toList], some ((), [.shortKid 1, .exact ['a']]),
          none⟩ ∧
      (ksGetLine ["0x00000001".toList, "=a".toList]).length =
          17 + patternCost ["0x00000001".toList, "=a".toList] ∧
      (2 ≤ 2 → (ksGetLine ["0x00000001".toList, "=a".toList]).length ≤ maxKsGetLinelen) ∧
      (maxKsGetLinelen < (ksGetLine ["0x00000001".toList, "=a".toList]).length →
        ∃ name, ["0x00000001".toList, "=a".toList] = ['=' :: name] ∧
          KeydbSearchDesc.exact name ∈ [.shortKid 1, .exact ['a']]) := by
  have h : keyserverGetChunk (⟨fun _ => true, .ok ()⟩ : ChunkEnv Unit)
      [.shortKid 1, .exact ['a']] =
        .ok ⟨2, some ["0x00000001".toList, "=a".toList], some ((), [.shortKid 1, .exact ['a']]),
          none⟩ := rfl
  exact ⟨h, keyserverGetChunk_lineLength _ _ h rfl⟩

/-! ## Empty requests -/

/-- The patterns built so far stay a prefix of those the loop stops with. -/
lemma getChunkLoop_prefix {allocOk : Nat → Bool} {desc : List KeydbSearchDesc}
    {idx linelen idx' : Nat} {pattern pattern' : List CStr}
    (h : getChunkLoop allocOk desc idx linelen pattern = .done idx' pattern') :
    pattern <+: pattern' := by
  obtain ⟨-, hp⟩ := @getChunkLoop_induct allocOk desc (fun _ _ q => pattern <+: q)
    (fun _ _ h => h) (fun _ _ _ h => h.trans (List.prefix_append _ _)) desc idx linelen pattern
    _ _ (List.Subset.refl _) (List.prefix_refl _) h
  exact hp

/-- A loop that stops with no pattern has only skipped `NONE` descriptors, and stopped at the
end of the array or, past the first descriptor, before a name over the budget on its own. -/
lemma getChunkLoop_empty {allocOk : Nat → Bool} :
    ∀ (desc : List KeydbSearchDesc) (idx : Nat) {idx' : Nat},
      getChunkLoop allocOk desc idx 17 [] = .done idx' [] →
      ∃ u, idx' = idx + u ∧ (∀ d ∈ desc.take u, d = .none) ∧
        (u = desc.length ∨ ∃ name, desc[u]? = some (.exact name) ∧ idx + u ≠ 0 ∧
          maxKsGetLinelen < 17 + (2 + name.length))
  | [], idx, _, h => by cases h; exact ⟨0, rfl, by simp, .inl rfl⟩
  | d :: rest, idx, idx', h => by
    unfold getChunkLoop at h
    split at h
    · rename_i hitem
      obtain ⟨u, rfl, hnone, hend⟩ := getChunkLoop_empty rest (idx + 1) h
      refine ⟨u + 1, by omega, ?_, ?_⟩
      · simp only [List.take_succ_cons, List.mem_cons, forall_eq_or_imp]
        exact ⟨ksGetItem_skip hitem, hnone⟩
      · rcases hend with hend | ⟨name, hn, -, hlt⟩
        · exact .inl (by simp [hend])
        · exact .inr ⟨name, by simpa using hn, by omega, hlt⟩
    · cases h
    · rename_i n p hitem
      split_ifs at h with hbrk
      · cases h
        obtain ⟨name, rfl, -, rfl⟩ := (ksGetItem_pattern hitem).2 hbrk.2
        exact ⟨0, rfl, by simp, .inr ⟨name, by simp, hbrk.1, hbrk.2⟩⟩
      · simpa using getChunkLoop_prefix h

/-- **When a request goes out empty.**  For any descriptor array, `keyserver_get_chunk` hands
`gpg_dirmngr_ks_get` an empty pattern list only when every descriptor it consumed is `NONE`,
and either it consumed the whole array, or it consumed at least one and stopped before an
`EXACT` name whose estimate alone passes the budget. -/
theorem keyserverGetChunk_emptyRequest (env : ChunkEnv S) (desc : List KeydbSearchDesc)
    {r : ChunkReport S} (hr : keyserverGetChunk env desc = .ok r) (he : r.request = some []) :
    (∀ d ∈ desc.take r.ndescUsed, d = .none) ∧
      (r.ndescUsed = desc.length ∨ ∃ name, desc[r.ndescUsed]? = some (.exact name) ∧
        0 < r.ndescUsed ∧ maxKsGetLinelen < 17 + (2 + name.length)) := by
  unfold keyserverGetChunk at hr
  split_ifs at hr
  · split at hr
    · rename_i idx pattern hl
      cases hr
      simp only [sendChunk_request, Option.some.injEq] at he
      subst he
      obtain ⟨u, rfl, hnone, hend⟩ := getChunkLoop_empty desc 0 hl
      simp only [sendChunk_ndescUsed, Nat.zero_add] at hnone hend ⊢
      exact ⟨hnone, hend.imp_right fun ⟨name, hn, h0, hlt⟩ =>
        ⟨name, hn, Nat.pos_of_ne_zero h0, hlt⟩⟩
    · cases hr; cases he
    · cases hr
  · cases hr; cases he

/-- A `NONE` descriptor followed by a name of 932 bytes or more: the chunk consumes the `NONE`
alone and sends an empty request, the name being left for the next chunk. -/
lemma keyserverGetChunk_noneThenName {name : CStr} (hn : 932 ≤ name.length) :
    keyserverGetChunk (⟨fun _ => true, .ok ()⟩ : ChunkEnv Unit) [.none, .exact name] =
      .ok ⟨1, some [], some ((), [.none]), none⟩ := by
  have hbrk : 0 + 1 ≠ 0 ∧ 17 + (1 + 1 + name.length) > maxKsGetLinelen :=
    ⟨by decide, by unfold maxKsGetLinelen; omega⟩
  simp only [keyserverGetChunk, getChunkLoop, ksGetItem, if_true, hbrk]
  rfl

/-- So `keyserver_get` on a `NONE` descriptor and a name of 932 bytes or more sends two requests,
the first one empty, while the name is still to be fetched. -/
lemma keyserverGet_noneThenName {name : CStr} (hn : 932 ≤ name.length) :
    keyserverGet (fun _ => (⟨fun _ => true, .ok ()⟩ : ChunkEnv Unit)) 0 [.none, .exact name] =
      .ok ⟨[⟨1, some [], some ((), [.none]), none⟩,
        ⟨1, some ['=' :: name], some ((), [.exact name]), none⟩], none, true⟩ := by
  have h2 : keyserverGetChunk (⟨fun _ => true, .ok ()⟩ : ChunkEnv Unit) [.exact name] =
      .ok ⟨1, some ['=' :: name], some ((), [.exact name]), none⟩ := by
    simp only [keyserverGetChunk, getChunkLoop, ksGetItem]
    rfl
  rw [keyserverGet, keyserverGetLoop_of_chunk (keyserverGetChunk_noneThenName hn),
    if_neg (by simp), List.drop_one, List.tail_cons, keyserverGetLoop_of_chunk h2, if_pos (by simp)]
  rfl

/-! ## The arrays the callers pass -/

/-- A chunk call on a non-empty array without `NONE` requests at least one pattern: it consumes
the first descriptor, which builds one. -/
lemma keyserverGetChunk_request_ne_nil (env : ChunkEnv S) {desc : List KeydbSearchDesc}
    (hne : desc ≠ []) (hdesc : ∀ d ∈ desc, d.isGetMode) {r : ChunkReport S}
    (hr : keyserverGetChunk env desc = .ok r) : r.request ≠ some [] := by
  intro he
  obtain ⟨hnone, hused⟩ := keyserverGetChunk_emptyRequest env desc hr he
  obtain ⟨d, rest, rfl⟩ := List.exists_cons_of_ne_nil hne
  have hpos : r.ndescUsed ≠ 0 := by
    rcases hused with h | ⟨_, _, h, _⟩
    · simp [h]
    · exact h.ne'
  obtain ⟨n, hn⟩ := Nat.exists_eq_succ_of_ne_zero hpos
  have hd : d = .none := hnone d (by simp [hn])
  exact KeydbSearchDesc.ne_none_of_isGetMode (hdesc d (List.mem_cons_self _ _)) hd

/-- Every chunk call of `keyserver_get` on a non-empty array without `NONE` requests at least
one pattern: each is called on a non-empty rest of the array. -/
lemma keyserverGetLoop_requests (env : Nat → ChunkEnv S) :
    ∀ (desc : List KeydbSearchDesc) (call : Nat) (anyGood : Bool) {g : GetReport S},
      desc ≠ [] → (∀ d ∈ desc, d.isGetMode) → keyserverGetLoop env call desc anyGood = .ok g →
      ∀ r ∈ g.chunks, r.request ≠ some [] := by
  suffices ∀ n (desc : List KeydbSearchDesc), desc.length = n → ∀ (call : Nat) (anyGood : Bool)
      {g : GetReport S}, desc ≠ [] → (∀ d ∈ desc, d.isGetMode) →
      keyserverGetLoop env call desc anyGood = .ok g → ∀ r ∈ g.chunks, r.request ≠ some [] from
    fun desc => this _ desc rfl
  intro n
  induction n using Nat.strong_induction_on with
  | _ n ih =>
  intro desc hn call anyGood g hne hdesc hg
  have hchunk : ∀ d ∈ desc, d.chunkable := fun d hd => by
    simp [KeydbSearchDesc.chunkable, hdesc d hd]
  obtain ⟨r, hc⟩ : ∃ r, keyserverGetChunk (env call) desc = .ok r := by
    rcases keyserverGetChunk_cases (env call) hchunk with hc | ⟨_, _, _, hc⟩ <;> exact ⟨_, hc⟩
  have hr := keyserverGetChunk_request_ne_nil (env call) hne hdesc hc
  rw [keyserverGetLoop_of_chunk hc] at hg
  split_ifs at hg with hstop
  · cases hg
    simpa using hr
  · have herr : r.err = none := by simpa using (not_or.mp hstop).1
    have hlt : r.ndescUsed < desc.length := by simpa using (not_or.mp hstop).2
    have hpos := keyserverGetChunk_progress hc herr hne
    rcases hrest : keyserverGetLoop env (call + 1) (desc.drop r.ndescUsed)
      (anyGood || r.err.isNone) with f | g' <;> rw [hrest] at hg <;> cases hg
    intro r' hr'
    rcases List.mem_cons.mp hr' with rfl | hr'
    · exact hr
    · exact ih _ (by simp only [List.length_drop]; omega) _ rfl _ _ (by simpa using hlt)
        (fun d hd => hdesc d (List.mem_of_mem_drop hd)) hrest r' hr'

/-- **No empty request on the callers' arrays.**  For any descriptor array, the chunk call of
`keyserver_get` hands `gpg_dirmngr_ks_get` an empty pattern list only when every descriptor it
consumed is `NONE`, and it consumed either the whole array or at least one descriptor before an
`EXACT` name whose estimate alone passes the budget.  So on a non-empty array without `NONE`,
the kind every caller of `keyserver_get` builds, `keyserver_get` returns whatever the
allocations and the transport do, and none of its chunk calls sends an empty request. -/
theorem keyserverGet_emptyRequest (env : Nat → ChunkEnv S) (call : Nat)
    (desc : List KeydbSearchDesc) :
    (∀ r, keyserverGetChunk (env call) desc = .ok r → r.request = some [] →
      (∀ d ∈ desc.take r.ndescUsed, d = .none) ∧
        (r.ndescUsed = desc.length ∨ ∃ name, desc[r.ndescUsed]? = some (.exact name) ∧
          0 < r.ndescUsed ∧ maxKsGetLinelen < 17 + (2 + name.length))) ∧
      (desc ≠ [] → (∀ d ∈ desc, d.isGetMode) →
        ∃ g, keyserverGet env call desc = .ok g ∧ ∀ r ∈ g.chunks, r.request ≠ some []) := by
  refine ⟨fun _ hr he => keyserverGetChunk_emptyRequest _ desc hr he, fun hne hdesc => ?_⟩
  obtain ⟨g, hg, -⟩ := keyserverGetLoop_ok env desc call false fun d hd => by
    simp [KeydbSearchDesc.chunkable, hdesc d hd]
  exact ⟨g, hg, keyserverGetLoop_requests env desc call false hne hdesc hg⟩

/-- A long key id and a one-byte name, every transport call succeeding: no chunk is empty. -/
theorem keyserverGet_emptyRequest_kidAndName :
    ∃ g, keyserverGet (fun _ => (⟨fun _ => true, .ok ()⟩ : ChunkEnv Unit)) 0
        [.longKid 1 2, .exact ['a']] = .ok g ∧ ∀ r ∈ g.chunks, r.request ≠ some [] :=
  (keyserverGet_emptyRequest _ 0 _).2 (by simp) (by decide)

/-- On a `NONE` descriptor and a name of 932 bytes, an array not all `NONE`, `keyserver_get`
sends an empty request while the name is still to be fetched, and the name alone after it. -/
theorem keyserverGet_emptyRequest_longName :
    keyserverGet (fun _ => (⟨fun _ => true, .ok ()⟩ : ChunkEnv Unit)) 0
        [.none, .exact (List.replicate 932 'a')] =
      .ok ⟨[⟨1, some [], some ((), [.none]), none⟩,
        ⟨1, some ['=' :: List.replicate 932 'a'], some ((), [.exact (List.replicate 932 'a')]),
          none⟩], none, true⟩ :=
  keyserverGet_noneThenName (List.length_replicate 932 'a').ge

end NeoPG
