import Aliasing.Proofs.Printed
/-!
# How runs end

The check decides whether a run fails for its skipped lines and what is said of them. The format and
the switches decide what is printed. What is found depends on none of them, and whatever is left out
of it is told of on the error channel.

Main statements: `ofEveryCheck_ofDump`, the checks find the same; `warning_ofDump`, what a success
is accompanied by; `run_eq_of_not_tracing`, a run without a trace reads the dump and ends as its
bytes say; `announced_runProgram`.
-/

namespace Aliasing

/-- The findings are those of every check; only a strict one gives the skipped lines instead, if
there are any. -/
structure Findings.OfEveryCheck (text : String) (how : Reduction) (found : Findings) : Prop where
  lenient : (analyse text ⟨.lenient, how⟩).value = .ok found
  report : (analyse text ⟨.report, how⟩).value = .ok found
  strict : (analyse text ⟨.strict, how⟩).value =
    if found.skipped = [] then .ok found else .error ⟨found.skipped⟩

/-- A run fails for skipped lines under a strict check alone, and then prints nothing; else it
prints the groups in the order of their nodes, unless it is quiet, and the counts if it was asked to
in text format. Something is said on the error channel if skipped lines are to be named, and under
every check if the node id of one is too large. -/
structure Invocation.Announced (inv : Invocation) (found : Findings) (out : Outcome) : Prop where
  code : out.code = if inv.check = .strict ∧ found.skipped ≠ [] then 1 else 0
  groups_ascend : found.groups.Pairwise fun g g' => g.primary < g'.primary
  stdout_of_failure : out.code = 1 → out.stdout = ""
  stdout_of_success : out.code = 0 → out.stdout =
    (if inv.quiet then "" else match inv.format with
      | .text => textReport found.groups
      | .json => jsonReport found.groups found.stats) ++
      (if inv.stats ∧ inv.format = .text then statsReport found.stats else "")
  stderr_ne_empty_iff : out.stderr ≠ "" ↔
    (found.skipped ≠ [] ∧ (inv.check = .report ∨ inv.check = .strict)) ∨
      ∃ s ∈ found.skipped, s.why.isOversizedId
  stderr_of_failure : out.code = 1 → out.stderr = skippedReport found.skipped ++
    "Error: found " ++ found.skipped.length.repr ++ " malformed line(s) in " ++ inv.dump ++ "\n"
  stderr_of_success : out.code = 0 → out.stderr =
    if inv.check = .report ∧ found.skipped ≠ [] then skippedReport found.skipped
    else oversizedReport (found.skipped.filter (·.why.isOversizedId)).length

/-! ## Checks -/

/-- **The checks find the same.** -/
theorem ofEveryCheck_ofDump (text : String) (how : Reduction) :
    (Findings.ofDump text how).OfEveryCheck text how where
  lenient := by rw [value_analyse, if_neg (by simp)]
  report := by rw [value_analyse, if_neg (by simp)]
  strict := by
    rw [value_analyse]
    show _ = if (Log.ofText text).skipped = [] then _ else _
    by_cases h : (Log.ofText text).skipped = []
    · rw [if_pos h, if_neg (by simp [h])]
    · rw [if_neg h, if_pos ⟨rfl, h⟩]
      rfl

/-! ## Warnings -/

theorem skippedReport_ne_empty (skipped : List Skipped) : skippedReport skipped ≠ "" := by
  simp [skippedReport, textOfLines]

theorem oversizedReport_ne_empty_iff {count : Nat} : oversizedReport count ≠ "" ↔ 0 < count := by
  rw [oversizedReport, Nat.pos_iff_ne_zero]
  split
  · simp_all
  · simp_all [textOfLines]

namespace Invocation

/-- **A success is accompanied** by the skipped lines if they are to be reported, and else by the
number of those that were left out for their node ids. -/
theorem warning_ofDump (inv : Invocation) (text : String) (how : Reduction) :
    let found := Findings.ofDump text how
    inv.warning found =
      if inv.check = .report ∧ found.skipped ≠ [] then skippedReport found.skipped
      else oversizedReport (found.skipped.filter (·.why.isOversizedId)).length := by
  intro found
  have hcount : found.stats.oversized =
    (found.skipped.filter (·.why.isOversizedId)).length := rfl
  rw [warning, hcount, skippedText_eq_skippedReport]
  congr 1
  split
  · rename_i hpos
    exact oversizedText_eq_oversizedReport hpos
  · rename_i hzero
    rw [Nat.eq_zero_of_not_pos hzero]
    rfl

theorem warning_ne_empty_iff (inv : Invocation) (text : String) (how : Reduction) :
    inv.warning (Findings.ofDump text how) ≠ "" ↔
      (inv.check = .report ∧ (Findings.ofDump text how).skipped ≠ []) ∨
        ∃ s ∈ (Findings.ofDump text how).skipped, s.why.isOversizedId := by
  rw [warning_ofDump]
  by_cases hreport : inv.check = .report ∧ (Findings.ofDump text how).skipped ≠ []
  · rw [if_pos hreport]
    exact iff_of_true (skippedReport_ne_empty _) (Or.inl hreport)
  · rw [if_neg hreport, or_iff_right hreport, oversizedReport_ne_empty_iff,
      List.length_pos_iff_exists_mem]
    simp only [List.mem_filter]

/-! ## Runs without a trace -/

variable {inv : Invocation}

/-- What a run says that fails for skipped lines. -/
theorem failure_eq (skipped : List Skipped) (dump : String) :
    skippedText skipped ++ "Error: " ++ MalformedLines.message ⟨skipped⟩ ++ " in " ++ dump ++ "\n" =
      skippedReport skipped ++ "Error: found " ++ skipped.length.repr ++
        " malformed line(s) in " ++ dump ++ "\n" := by
  rw [skippedText_eq_skippedReport, MalformedLines.message]
  simp only [String.append_assoc]
  rfl

theorem conclude_eq (htracing : inv.tracing = false) (traceText : List Event → String)
    (bytes : List UInt8) :
    let found := Findings.ofDump (String.ofList (decodeUtf8 bytes)) inv.reduction
    inv.conclude traceText bytes =
      if inv.check = .strict ∧ found.skipped ≠ [] then
        ⟨1, "", skippedReport found.skipped ++ "Error: found " ++ found.skipped.length.repr ++
          " malformed line(s) in " ++ inv.dump ++ "\n"⟩
      else ⟨0, inv.output found, inv.warning found⟩ := by
  intro found
  have hskipped : (Log.ofText (String.ofList (decodeUtf8 bytes))).skipped = found.skipped := rfl
  unfold conclude
  simp only [value_analyse, htracing, Bool.false_eq_true, if_false, hskipped, String.empty_append]
  by_cases hstrict : inv.check = .strict ∧ found.skipped ≠ []
  · rw [if_pos hstrict, if_pos hstrict]
    exact congrArg (Outcome.mk 1 "") (failure_eq found.skipped inv.dump)
  · rw [if_neg hstrict, if_neg hstrict]

/-- How a run ends on a dump with the given bytes. -/
theorem announced_conclude (htracing : inv.tracing = false) (traceText : List Event → String)
    (bytes : List UInt8) :
    inv.Announced (Findings.ofDump (String.ofList (decodeUtf8 bytes)) inv.reduction)
      (inv.conclude traceText bytes) := by
  rw [conclude_eq htracing]
  generalize String.ofList (decodeUtf8 bytes) = text
  have hascend := Relation.pairwise_aliasGroups
    ((Relation.ofRecords (Log.ofText text).records).reduce inv.reduction).value.2
  by_cases hstrict :
    inv.check = .strict ∧ (Findings.ofDump text inv.reduction).skipped ≠ []
  · rw [if_pos hstrict]
    exact {
      code := (if_pos hstrict).symm
      groups_ascend := hascend
      stdout_of_failure := fun _ => rfl
      stdout_of_success := fun h => absurd h Nat.one_ne_zero
      stderr_ne_empty_iff := by
        refine iff_of_true ?_ (Or.inl ⟨hstrict.2, Or.inr hstrict.1⟩)
        simp [skippedReport_ne_empty]
      stderr_of_failure := fun _ => rfl
      stderr_of_success := fun h => absurd h Nat.one_ne_zero }
  · rw [if_neg hstrict]
    exact {
      code := (if_neg hstrict).symm
      groups_ascend := hascend
      stdout_of_failure := fun h => absurd h Nat.zero_ne_one
      stdout_of_success := fun _ => inv.output_ofDump text inv.reduction
      stderr_ne_empty_iff := by
        rw [warning_ne_empty_iff]
        refine or_congr_left ⟨fun ⟨hreport, h⟩ => ⟨h, Or.inl hreport⟩, ?_⟩
        rintro ⟨h, hreport | hcheck⟩
        · exact ⟨hreport, h⟩
        · exact absurd ⟨hcheck, h⟩ hstrict
      stderr_of_failure := fun h => absurd h Nat.zero_ne_one
      stderr_of_success := fun _ => inv.warning_ofDump text inv.reduction }

variable {m : Type → Type} [Monad m] [LawfulMonad m]

/-- **A run without a trace** reads the dump, and does nothing else to the files. -/
theorem run_eq_of_not_tracing (host : Host m) (htracing : inv.tracing = false) :
    inv.run host = do
      match ← host.read inv.dump with
      | .error fault =>
        return ⟨1, "", faultText ("Couldn't read points-to dump at " ++ inv.dump) fault⟩
      | .ok bytes => return inv.conclude host.traceText bytes := by
  have hprepare : inv.prepare host = pure (.ok ()) := by
    unfold prepare
    rw [htracing]
  unfold run
  rw [hprepare]
  exact pure_bind _ _

end Invocation

/-- **What is dropped is announced.** The checks find the same in every dump. A run without a trace
reads its dump and, if it can, ends as the findings and its options say: only a strict check makes
it fail, what is printed has nothing to do with the check, and a line that was left out for its node
id is always told of. -/
theorem announced_runProgram :
    (∀ (text : String) (how : Reduction), ∃ found : Findings, found.OfEveryCheck text how) ∧
      ∀ {m : Type → Type} [Monad m] [LawfulMonad m] (host : Host m) (args : List String)
        (inv : Invocation), host.readArguments args = .ok inv → inv.tracing = false →
        ∃ ending : List UInt8 → Outcome,
          (runProgram host args = do
            match ← host.read inv.dump with
            | .error fault =>
              return ⟨1, "", faultText ("Couldn't read points-to dump at " ++ inv.dump) fault⟩
            | .ok bytes => return ending bytes) ∧
          ∀ bytes, ∃ found : Findings,
            found.OfEveryCheck (String.ofList (decodeUtf8 bytes)) inv.reduction ∧
              inv.Announced found (ending bytes) := by
  refine ⟨fun text how => ⟨_, ofEveryCheck_ofDump text how⟩, ?_⟩
  intro m _ _ host args inv hargs htracing
  refine ⟨inv.conclude host.traceText, ?_, fun bytes => ?_⟩
  · unfold runProgram
    rw [hargs]
    exact Invocation.run_eq_of_not_tracing host htracing
  · exact ⟨_, ofEveryCheck_ofDump _ _,
      Invocation.announced_conclude htracing host.traceText bytes⟩

/-- A dump with an id that is too large, once with the counts and once quietly under a strict
check. -/
theorem announced_runProgram_oversized :
    let text := textOfLines ["NodeID 1 (val:@a) PointsTo: \x7b 10 20 \x7d",
      "NodeID 2 (val:@b) PointsTo: \x7b 20 \x7d",
      "NodeID 3 (val:@c) PointsTo: \x7b 18446744073709551616 \x7d"]
    let bytes := text.toList.flatMap String.utf8EncodeChar
    let counts := ["--stats", "dump.log"]
    let strict := ["--check", "strict", "--quiet", "--stats", "dump.log"]
    let invCounts : Invocation := ⟨"dump.log", .lenient, .text, .snapshot, false, true, false, none⟩
    let invStrict : Invocation := ⟨"dump.log", .strict, .text, .snapshot, true, true, false, none⟩
    let host : Host Id := {
      readArguments := fun args =>
        if args = counts then .ok invCounts
        else if args = strict then .ok invStrict
        else .error ⟨2, "", "error: no such arguments\n"⟩
      traceText := fun _ => ""
      create := fun _ => .ok ()
      read := fun path => if path = "dump.log" then .ok bytes else .error .missing }
    (host.readArguments counts = .ok invCounts ∧ invCounts.tracing = false ∧
      runProgram host counts = (⟨0,
        textOfLines ["\x7b'@a', '@b'\x7d", "", "stats", "-----", "records: 2", "skipped lines: 1",
          "oversized node ids: 1", "names: 2", "nodes: 2", "surviving nodes: 1", "passes: 1",
          "merges: 1", "alias groups: 1"],
        "dropped 1 line(s) with node ids beyond 18446744073709551615\n"⟩ : Outcome)) ∧
      host.readArguments strict = .ok invStrict ∧ invStrict.tracing = false ∧
      runProgram host strict = (⟨1, "",
        textOfLines ["skipped 1 malformed line(s)",
          "  line 3: node id 18446744073709551616 does not fit in 64 bits",
          "Error: found 1 malformed line(s) in dump.log"]⟩ : Outcome) := by
  intro text bytes counts strict invCounts invStrict host
  have htext : String.ofList (decodeUtf8 bytes) = text := by decide +kernel
  have hdump : Findings.ofDump text .snapshot =
      ⟨[⟨⟨10, by decide⟩, {⟨"@a"⟩, ⟨"@b"⟩}⟩], [⟨3, .oversizedId "18446744073709551616"⟩],
        ⟨2, 1, 1, 2, 2, 1, 1, 1, 1⟩⟩ := by decide +kernel
  have hruns : ∀ (args : List String) (inv : Invocation), host.readArguments args = .ok inv →
      inv.tracing = false → inv.reduction = .snapshot → inv.dump = "dump.log" →
        inv.Announced (Findings.ofDump text .snapshot) (runProgram host args) := by
    intro args inv hargs htracing hhow hpath
    obtain ⟨ending, hrun, hends⟩ := announced_runProgram.2 host args inv hargs htracing
    obtain ⟨found, hfound, hout⟩ := hends bytes
    rw [htext, hhow] at hfound
    have hending : runProgram host args = ending bytes := by
      rw [hrun, hpath]
      rfl
    rw [hending, ← eq_ofDump_of_value_analyse hfound.lenient]
    exact hout
  have hcounts := hruns counts invCounts rfl rfl rfl rfl
  have hstrict := hruns strict invStrict rfl rfl rfl rfl
  rw [hdump] at hcounts hstrict
  have hzero : (runProgram host counts).code = 0 := hcounts.code
  have hone : (runProgram host strict).code = 1 := hstrict.code
  refine ⟨⟨rfl, rfl, Outcome.ext hzero ?_ ?_⟩, rfl, rfl, Outcome.ext hone ?_ ?_⟩
  · rw [hcounts.stdout_of_success hzero]
    decide +kernel
  · rw [hcounts.stderr_of_success hzero]
    decide +kernel
  · exact hstrict.stdout_of_failure hone
  · rw [hstrict.stderr_of_failure hone]
    decide +kernel

end Aliasing
