import Multiscan.Database
import Multiscan.Proofs.Engine.Run
import Multiscan.Proofs.FlagCodec
import Multiscan.Proofs.Text.Characters
/-!
# Batches — what can be given to an engine

Before an engine is asked to compile a batch, the library looks at every
expression: its pattern must not hold a NUL, and its flags must be those that the
extended variant takes (`Expression.Presentable`). Either all expressions are
given to the engine, each with its position (`jobs_of_presentable`), or the error
names the first one that cannot be, and the first thing that is wrong with it
(`jobs_of_unfit`). What becomes of a batch that is given to an engine, the reply
decides (`compile_apply`).
-/

namespace Multiscan

open Text (byteLength bytesOf encode)

/-! ## Patterns as bytes -/

/-- NUL is the only character with NUL in its encoding. -/
theorem zero_not_mem_encode {cs : List Char} (h : '\x00' ∉ cs) : (0 : UInt8) ∉ encode cs := by
  intro hmem
  obtain ⟨i, hi⟩ := List.mem_iff_getElem?.1 hmem
  rw [← List.getElem?_toArray] at hi
  obtain ⟨before, c, after, rfl, -, hc⟩ := Text.exists_of_ascii hi (by decide)
  obtain rfl : c = '\x00' := Char.toNat_inj.1 hc
  exact h (by simp)

/-- Before the first NUL of a pattern, none of its bytes is NUL. -/
theorem findIdx?_encode {before : List Char} (h : '\x00' ∉ before) :
    (encode before).findIdx? (· == 0) = none := by
  rw [List.findIdx?_eq_none_iff]
  intro b hb
  rw [beq_eq_false_iff_ne]
  rintro rfl
  exact zero_not_mem_encode h hb

/-- A pattern without NUL is given to an engine as its bytes. -/
theorem patternBytes_of_not_mem {pattern : String} (h : '\x00' ∉ pattern.toList) :
    patternBytes pattern = .ok (bytesOf pattern) := by
  have hnone : (bytesOf pattern).findIdx? (· == 0) = none := by
    rw [bytesOf, List.findIdx?_toArray, findIdx?_encode h]
  rw [patternBytes, hnone]

/-- Of a pattern with NUL the offset of the first one is told. -/
theorem patternBytes_of_nul {pattern : String} {before after : List Char}
    (h : pattern.toList = before ++ '\x00' :: after) (hbefore : '\x00' ∉ before) :
    patternBytes pattern = .error (.invalid
      ("pattern contains a NUL byte at offset " ++ Nat.repr (byteLength before))) := by
  have hnul : Text.encodeChar '\x00' = [0] := by decide
  have hfirst : (bytesOf pattern).findIdx? (· == 0) = some (byteLength before) := by
    rw [bytesOf, List.findIdx?_toArray, h, Text.encode_append, Text.encode_cons, hnul,
      List.findIdx?_append, findIdx?_encode hbefore, Text.length_encode, Option.none_or,
      List.singleton_append, List.findIdx?_cons, if_pos (beq_self_eq_true _), Option.map_some, Nat.zero_add]
  rw [patternBytes, hfirst]

namespace Expression

/-! ## Expressions -/

/-- What an engine can be given: a pattern without NUL, and flags that the extended
variant takes. -/
structure Presentable (e : Expression) : Prop where
  nul : '\x00' ∉ e.pattern.toList
  flags : ∀ f, e.flags.contains f = true → Variant.extended.Takes f

/-- What is wrong with an expression that an engine cannot be given: the first NUL
of its pattern or, if there is none, the first of its flags that the extended
variant does not take. -/
inductive Unfit (e : Expression) : String → Prop
  | nul {before after : List Char} (hpattern : e.pattern.toList = before ++ '\x00' :: after)
      (hbefore : '\x00' ∉ before) :
      Unfit e ("pattern contains a NUL byte at offset " ++ Nat.repr (byteLength before))
  | flag {before after : List Flag} {f : Flag} (hnul : '\x00' ∉ e.pattern.toList)
      (hall : Flag.all = before ++ f :: after)
      (hbefore : ∀ g ∈ before, e.flags.contains g = true → Variant.extended.Takes g)
      (hf : e.flags.contains f = true) (htakes : ¬ Variant.extended.Takes f) :
      Unfit e ("flag '" ++ f.name ++ "' is not supported by the " ++ Variant.extended.name ++
        " engine")

/-- Something is wrong with whatever an engine cannot be given. -/
theorem presentable_or_unfit (e : Expression) : e.Presentable ∨ ∃ reason, e.Unfit reason := by
  by_cases hnul : '\x00' ∈ e.pattern.toList
  · obtain ⟨before, after, hpattern, hbefore⟩ := List.eq_append_cons_of_mem hnul
    exact .inr ⟨_, .nul hpattern hbefore⟩
  by_cases hflags : ∀ f, e.flags.contains f = true → Variant.extended.Takes f
  · exact .inl ⟨hnul, hflags⟩
  · obtain ⟨before, f, after, hall, hbefore, hf, htakes, -⟩ :=
      FlagSet.encode_of_not_takes hflags
    exact .inr ⟨_, .flag hnul hall hbefore hf htakes⟩

/-- Without flags there is only the pattern to look at. -/
theorem presentable_ofPattern {pattern : String} (h : '\x00' ∉ pattern.toList) :
    (ofPattern pattern .empty).Presentable := by
  refine ⟨h, fun f hf => ?_⟩
  have hflag : FlagSet.empty.contains f = true := hf
  rw [FlagSet.contains_empty] at hflag
  cases hflag

/-- What an engine is given for an expression at a position. -/
def jobAt (e : Expression) (i : Nat) : Engine.Job :=
  ⟨bytesOf e.pattern, FlagWord.ofList e.flags.toList, UInt32.ofNat i⟩

end Expression

namespace Database

variable {e : Expression} {es before : List Expression} {reason : String}

theorem job_of_presentable (h : e.Presentable) (i : Nat) : job i e = .ok (e.jobAt i) := by
  rw [job, patternBytes_of_not_mem h.nul, FlagSet.encode_of_takes h.flags]
  rfl

theorem job_of_unfit (h : e.Unfit reason) (i : Nat) : job i e = .error (.invalid reason) := by
  cases h with
  | nul hpattern hbefore =>
    rw [job, patternBytes_of_nul hpattern hbefore]
    rfl
  | flag hnul hall hbefore hf htakes =>
    have hpattern := patternBytes_of_not_mem hnul
    have hflags := FlagSet.encode_of_first hall hbefore hf htakes
    rw [job, hpattern, hflags]
    rfl

/-- What an engine is given for expressions from a position on. -/
def jobsFrom (i : Nat) (es : List Expression) : List Engine.Job :=
  (es.zipIdx i).map fun (e, k) => e.jobAt k

theorem length_jobsFrom (i : Nat) (es : List Expression) : (jobsFrom i es).length = es.length := by
  rw [jobsFrom, List.length_map, List.length_zipIdx]

theorem jobsFrom_append (i : Nat) (es es' : List Expression) :
    jobsFrom i (es ++ es') = jobsFrom i es ++ jobsFrom (i + es.length) es' := by
  rw [jobsFrom, List.zipIdx_append, List.map_append]
  rfl

/-- Every expression has its own place in what an engine is given. -/
theorem getElem?_jobsFrom {k : Nat} (h : es[k]? = some e) (i : Nat) :
    (jobsFrom i es)[k]? = some (e.jobAt (i + k)) := by
  rw [jobsFrom, List.getElem?_map, List.getElem?_zipIdx, h]
  rfl

/-- An id is that of a position. -/
theorem id_of_mem_jobsFrom {j : Engine.Job} {i : Nat} (h : j ∈ jobsFrom i es) :
    ∃ k, i ≤ k ∧ k < i + es.length ∧ j.id = UInt32.ofNat k := by
  obtain ⟨⟨e, k⟩, hmem, rfl⟩ := List.mem_map.1 h
  obtain ⟨hle, hlt, -⟩ := List.mem_zipIdx hmem
  exact ⟨k, hle, hlt, rfl⟩

/-- No other position has the id of a position. -/
theorem filter_jobsFrom_eq_nil {i k : Nat} (hcount : i + es.length ≤ UInt32.size)
    (hk : k < UInt32.size) (hout : k < i ∨ i + es.length ≤ k) :
    (jobsFrom i es).filter (·.id == UInt32.ofNat k) = [] := by
  rw [List.filter_eq_nil_iff]
  intro j hj hid
  obtain ⟨l, hle, hlt, hl⟩ := id_of_mem_jobsFrom hj
  have hsame := congrArg UInt32.toNat (hl.symm.trans (beq_iff_eq.1 hid))
  rw [UInt32.toNat_ofNat_of_lt' (by omega), UInt32.toNat_ofNat_of_lt' hk] at hsame
  omega

/-- **Ids tell positions apart**, as long as there are no more than there are ids. -/
theorem filter_jobsFrom {k : Nat} (hcount : es.length < UInt32.size) (h : es[k]? = some e) :
    (jobsFrom 0 es).filter (·.id == UInt32.ofNat k) = [e.jobAt k] := by
  obtain ⟨hk, rfl⟩ := List.getElem?_eq_some_iff.1 h
  have hlength : (es.take k).length = k := List.length_take_of_le (Nat.le_of_lt hk)
  have hsplit : jobsFrom 0 es =
      jobsFrom 0 (es.take k) ++ es[k].jobAt k :: jobsFrom (k + 1) (es.drop (k + 1)) := by
    conv_lhs => rw [← List.take_append_drop k es, jobsFrom_append, hlength, Nat.zero_add,
      List.drop_eq_getElem_cons hk]
    rfl
  have hbefore : (jobsFrom 0 (es.take k)).filter (·.id == UInt32.ofNat k) = [] :=
    filter_jobsFrom_eq_nil (by omega) (by omega) (.inr (by omega))
  have hafter : (jobsFrom (k + 1) (es.drop (k + 1))).filter (·.id == UInt32.ofNat k) = [] :=
    filter_jobsFrom_eq_nil (by rw [List.length_drop]; omega) (by omega)
      (.inl (Nat.lt_succ_self k))
  have hid : ((es[k].jobAt k).id == UInt32.ofNat k) = true := beq_self_eq_true _
  rw [hsplit, List.filter_append, hbefore, List.filter_cons, if_pos hid, hafter, List.nil_append]

/-- **All expressions are given to an engine** if all of them can be. -/
theorem jobs_of_presentable (h : ∀ e ∈ es, e.Presentable) (i : Nat) :
    jobs i es = .ok (jobsFrom i es) := by
  induction es generalizing i with
  | nil => rfl
  | cons e es ih =>
    obtain ⟨he, hes⟩ := List.forall_mem_cons.1 h
    rw [jobs, job_of_presentable he]
    dsimp only
    rw [ih hes]
    rfl

/-- **The first that cannot be** is the one that the error names. -/
theorem jobs_of_unfit (hbefore : ∀ e ∈ before, e.Presentable) (h : e.Unfit reason)
    (after : List Expression) (i : Nat) :
    jobs i (before ++ e :: after) = .error ((Error.invalid reason).within
      ("expression " ++ Nat.repr (i + before.length))) := by
  induction before generalizing i with
  | nil =>
    rw [List.nil_append, jobs, job_of_unfit h]
    rfl
  | cons first before ih =>
    obtain ⟨hfirst, hbefore⟩ := List.forall_mem_cons.1 hbefore
    rw [List.cons_append, jobs, job_of_presentable hfirst]
    dsimp only
    rw [ih hbefore, List.length_cons, Nat.add_right_comm, Nat.add_assoc]
    rfl

/-! ## Replies -/

/-- **What becomes of a batch** that an engine is given. -/
theorem compile_apply {σ : Type} {E : Engine σ} {first : Expression} {rest : List Expression}
    {js : List Engine.Job} (hcount : (first :: rest).length < UInt32.size)
    (hjobs : jobs 0 (first :: rest) = .ok js) (groups : Bool) (w : World σ) :
    let asked := E.answer (.compile js (Engine.modeOf groups)) w.engine
    let w' : World σ := ⟨asked.2, w.notes⟩
    (compile E groups (first :: rest)).attempt w =
      if asked.1.code = Code.success then
        match asked.1.database with
        | none => (.error (.invalid "engine reported success without a database"), w')
        | some h => (.ok ⟨some h, first :: rest⟩,
          ⟨asked.2, w.notes ++ [.compiled (rest.length + 1) h]⟩)
      else
        let failed := refusal E first rest asked.1 w'
        (.error failed.1, failed.2) := by
  intro asked w'
  have hfew : ¬ UInt32.size ≤ rest.length + 1 := Nat.not_le.2 hcount
  rw [compile]
  dsimp only
  rw [if_neg hfew, hjobs, Act.attempt_bind_ok, Act.attempt_bind_lift, World.ask_apply]
  dsimp only
  by_cases hcode : asked.1.code = Code.success
  · rw [if_neg (not_not.2 hcode), if_pos hcode]
    rcases asked.1.database with _ | h
    · rfl
    · rfl
  · rw [if_pos hcode, if_neg hcode, Act.attempt_bind_lift]
    rfl

end Database

end Multiscan
