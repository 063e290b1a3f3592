import Aliasing.CommandLine.Program
import Aliasing.Proofs.Findings
import Aliasing.Proofs.JsonDocuments
/-!
# What is printed

The reports of a run, character by character: the groups as text or as an indented document, the
block of counts, and the list of skipped lines. The names in a document stand there as they are,
since no character of a well-formed name has an escape.

Main statements: `Findings.indented_toJson`, the document; `Invocation.output_ofDump`, what is
printed of the findings about a dump.
-/

namespace Aliasing

/-! ## The reports -/

/-- Each group on a line of its own: its members between quotes and in braces. -/
def textReport (groups : List AliasGroup) : String :=
  String.join (groups.map fun g =>
    "\x7b" ++ String.intercalate ", " (g.members.toList.map fun x => "'" ++ x.text ++ "'") ++
      "\x7d\n")

/-- A group in the document, from the end of the line before it. -/
def groupReport (g : AliasGroup) : String :=
  "\n    \x7b\n      \"primary\": " ++ g.primary.text ++ ",\n      \"members\": [" ++
    String.intercalate "," (g.members.toList.map fun x => "\n        \"" ++ x.text ++ "\"") ++
    "\n      ]\n    \x7d"

/-- The document of groups and counts. -/
def jsonReport (groups : List AliasGroup) (s : Stats) : String :=
  "\x7b\n  \"groups\": [" ++ String.intercalate "," (groups.map groupReport) ++
    (if groups = [] then "]" else "\n  ]") ++ ",\n  \"stats\": \x7b" ++
    String.intercalate "," ([("records", s.records), ("skipped", s.skipped),
      ("overflowed", s.oversized), ("names", s.names), ("nodes", s.nodes),
      ("surviving_nodes", s.survivingNodes), ("passes", s.passes), ("merges", s.merges),
      ("groups", s.groups)].map fun e => "\n    \"" ++ e.1 ++ "\": " ++ e.2.repr) ++
    "\n  \x7d\n\x7d\n"

/-- The counts, a line for each, below a heading. -/
def statsReport (s : Stats) : String :=
  textOfLines ["", "stats", "-----", "records: " ++ s.records.repr,
    "skipped lines: " ++ s.skipped.repr, "oversized node ids: " ++ s.oversized.repr,
    "names: " ++ s.names.repr, "nodes: " ++ s.nodes.repr,
    "surviving nodes: " ++ s.survivingNodes.repr, "passes: " ++ s.passes.repr,
    "merges: " ++ s.merges.repr, "alias groups: " ++ s.groups.repr]

/-- The skipped lines by their numbers, each with what was wrong with it, below their count. -/
def skippedReport (skipped : List Skipped) : String :=
  textOfLines (("skipped " ++ skipped.length.repr ++ " malformed line(s)") ::
    skipped.map fun s => "  line " ++ s.line.repr ++ ": " ++ s.why.message)

/-- The number of the lines that were left out for their node ids, and nothing if there are none. -/
def oversizedReport (count : Nat) : String :=
  if count = 0 then ""
  else textOfLines
    ["dropped " ++ count.repr ++ " line(s) with node ids beyond 18446744073709551615"]

theorem text_eq_textReport (f : Findings) : f.text = textReport f.groups := by
  simp [Findings.text, textReport, AliasGroup.text, aliasSetText, String.append_assoc]

theorem statsText_eq_statsReport (s : Stats) : statsText s = statsReport s := by
  simp [statsText, statsReport, textOfLines, ← String.append_assoc]

theorem skippedText_eq_skippedReport (skipped : List Skipped) :
    skippedText skipped = skippedReport skipped := by
  simp [skippedText, skippedReport, textOfLines, Function.comp_def, String.append_assoc]

theorem oversizedText_eq_oversizedReport {count : Nat} (h : 0 < count) :
    oversizedText count = oversizedReport count := by
  have hlargest : NodeId.largest.text = "18446744073709551615" := by decide +kernel
  simp [oversizedText, oversizedReport, Nat.ne_of_gt h, textOfLines, hlargest, String.append_assoc]

/-! ## The document -/

namespace Json

/-- A string without escapes stands in its literal as it is. -/
theorem literal_of_plain {s : String} (h : ∀ c ∈ s.toList, c ∉ escapedChars) :
    literal s = "\"" ++ s ++ "\"" := by
  have hplain : s.toList.flatMap escapedChar = s.toList := by
    rw [List.flatMap_congr fun c hc => escapedChar_of_not_mem (h c hc)]
    exact List.flatMap_singleton' _
  apply String.toList_inj.1
  rw [toList_literal, hplain]
  simp

/-- A first item and the later ones, each behind its comma, are all of them with commas between. -/
theorem append_eq_intercalate {α : Type} (item : α → String) {later : List α → String}
    (hnil : later [] = "") (hcons : ∀ a l, later (a :: l) = "," ++ item a ++ later l) :
    ∀ a l, item a ++ later l = String.intercalate "," ((a :: l).map item)
  | a, [] => by simp [hnil]
  | a, b :: l => by
    have ih := append_eq_intercalate item hnil hcons b l
    rw [List.map_cons] at ih
    rw [List.map_cons, List.map_cons, String.intercalate_cons_cons, ← ih, hcons]
    simp only [String.append_assoc]

/-- **The items of an array** stand between commas, each at the beginning of a line. -/
theorem indented_array (level : Nat) (items : List Json) :
    (array items).indented level =
      "[" ++ String.intercalate "," (items.map fun v =>
          newline (level + 1) ++ v.indented (level + 1)) ++
        (if items = [] then "]" else newline level ++ "]") := by
  cases items with
  | nil => simp [indented]
  | cons v rest =>
    have hlater : ∀ v l, indentedItems (level + 1) (v :: l) =
        "," ++ (newline (level + 1) ++ v.indented (level + 1)) ++ indentedItems (level + 1) l :=
      fun v l => by simp only [indentedItems, String.append_assoc]
    rw [indented, ← append_eq_intercalate _ rfl hlater, if_neg (by simp)]
    simp only [String.append_assoc]

/-- **The members of an object** do so too. -/
theorem indented_object (level : Nat) (members : List (String × Json)) :
    (object members).indented level =
      "\x7b" ++ String.intercalate "," (members.map fun m =>
          newline (level + 1) ++ literal m.1 ++ ": " ++ m.2.indented (level + 1)) ++
        (if members = [] then "\x7d" else newline level ++ "\x7d") := by
  cases members with
  | nil => simp [indented]
  | cons m rest =>
    have hlater : ∀ m l, indentedMembers (level + 1) (m :: l) =
        "," ++ (newline (level + 1) ++ literal m.1 ++ ": " ++ m.2.indented (level + 1)) ++
          indentedMembers (level + 1) l :=
      fun m l => by simp only [indentedMembers, String.append_assoc]
    rw [indented, ← append_eq_intercalate _ rfl hlater, if_neg (by simp)]
    simp only [String.append_assoc]

end Json

/-- No character of a well-formed name has an escape. -/
theorem Name.WellFormed.plain {x : Name} (hx : x.WellFormed) :
    ∀ c ∈ x.text.toList, c ∉ Json.escapedChars := by
  intro c hc hescaped
  have hnone : Json.escapedChars.all (fun c => !isWordChar c &&
      !(sigil.toList.contains c) && !(separator.toList.contains c)) = true := by decide +kernel
  have hc' := List.all_eq_true.1 hnone c hescaped
  simp only [Bool.and_eq_true, Bool.not_eq_true', List.contains_eq_mem,
    decide_eq_false_iff_not] at hc'
  obtain ⟨⟨hword, hsigil⟩, hseparator⟩ := hc'
  rcases hx.char hc with h | h | h
  · rw [hword] at h
    cases h
  · exact hsigil h
  · exact hseparator h

theorem AliasGroup.indented_toJson {g : AliasGroup} (hne : g.members ≠ ∅)
    (hnames : ∀ x ∈ g.members, x.WellFormed) :
    Json.newline 2 ++ g.toJson.indented 2 = groupReport g := by
  have hprimary : Json.literal "primary" = "\"primary\"" := by decide +kernel
  have hkey : Json.literal "members" = "\"members\"" := by decide +kernel
  have hmembers : (g.members.toList.map fun x => Json.string x.text).map
      (fun v => Json.newline 4 ++ v.indented 4) =
      g.members.toList.map fun x => "\n        \"" ++ x.text ++ "\"" := by
    rw [List.map_map]
    refine List.map_congr_left fun x hx => ?_
    show Json.newline 4 ++ Json.literal x.text = _
    rw [Json.literal_of_plain (hnames x (Std.ExtTreeSet.mem_toList.1 hx)).plain]
    simp only [← String.append_assoc]
    rfl
  have hnil : g.members.toList.map (fun x => Json.string x.text) ≠ [] := by
    simpa using hne
  unfold groupReport AliasGroup.toJson
  rw [Json.indented_object, if_neg (by simp)]
  simp only [List.map_cons, List.map_nil, String.intercalate_cons_cons,
    String.intercalate_singleton, hprimary, hkey, Json.indented_array, hmembers, if_neg hnil,
    String.append_assoc]
  rfl

theorem Findings.indented_groups {f : Findings} (hne : ∀ g ∈ f.groups, g.members ≠ ∅)
    (hnames : ∀ g ∈ f.groups, ∀ x ∈ g.members, x.WellFormed) :
    (Json.array (f.groups.map AliasGroup.toJson)).indented 1 =
      "[" ++ String.intercalate "," (f.groups.map groupReport) ++
        (if f.groups = [] then "]" else "\n  ]") := by
  have hgroups : (f.groups.map AliasGroup.toJson).map (fun v => Json.newline 2 ++ v.indented 2) =
      f.groups.map groupReport := by
    rw [List.map_map]
    exact List.map_congr_left fun g hg => g.indented_toJson (hne g hg) (hnames g hg)
  rw [Json.indented_array, hgroups]
  simp only [List.map_eq_nil_iff]
  rfl

theorem Stats.indented_fields (s : Stats) :
    (Json.object (s.fields.map fun e => (e.1, Json.number e.2))).indented 1 =
      "\x7b" ++ String.intercalate "," (s.fields.map fun e =>
        "\n    \"" ++ e.1 ++ "\": " ++ e.2.repr) ++ "\n  \x7d" := by
  have hkeys : (s.fields.map Prod.fst).all (fun k => Json.literal k == "\"" ++ k ++ "\"") := by
    show ["records", "skipped", "overflowed", "names", "nodes", "surviving_nodes", "passes",
      "merges", "groups"].all (fun k => Json.literal k == "\"" ++ k ++ "\"") = true
    decide +kernel
  have hfields : (s.fields.map fun e => (e.1, Json.number e.2)).map (fun m =>
      Json.newline 2 ++ Json.literal m.1 ++ ": " ++ m.2.indented 2) =
      s.fields.map fun e => "\n    \"" ++ e.1 ++ "\": " ++ e.2.repr := by
    rw [List.map_map]
    refine List.map_congr_left fun e he => ?_
    show Json.newline 2 ++ Json.literal e.1 ++ ": " ++ e.2.repr = _
    rw [eq_of_beq (List.all_eq_true.1 hkeys e.1 (List.mem_map_of_mem he))]
    simp only [String.append_assoc]
    rfl
  rw [Json.indented_object, hfields, if_neg (by simp [Stats.fields])]
  rfl

/-- **The document of findings** with well-formed names in it, and names in every group. -/
theorem Findings.indented_toJson {f : Findings} (hne : ∀ g ∈ f.groups, g.members ≠ ∅)
    (hnames : ∀ g ∈ f.groups, ∀ x ∈ g.members, x.WellFormed) :
    f.toJson.indented 0 ++ "\n" = jsonReport f.groups f.stats := by
  have hgroupsKey : Json.literal "groups" = "\"groups\"" := by decide +kernel
  have hstatsKey : Json.literal "stats" = "\"stats\"" := by decide +kernel
  unfold Findings.toJson
  rw [Json.indented_object, if_neg (by simp)]
  simp only [List.map_cons, List.map_nil, String.intercalate_cons_cons,
    String.intercalate_singleton, hgroupsKey, hstatsKey, Findings.indented_groups hne hnames,
    f.stats.indented_fields]
  unfold jsonReport
  simp only [String.append_assoc]
  rfl

example : jsonReport [⟨⟨10, by decide⟩, {⟨"@a"⟩, ⟨"f::%x"⟩}⟩] ⟨2, 0, 0, 2, 2, 1, 1, 1, 1⟩ =
    textOfLines ["\x7b", "  \"groups\": [", "    \x7b", "      \"primary\": 10,",
      "      \"members\": [", "        \"@a\",", "        \"f::%x\"", "      ]", "    \x7d",
      "  ],", "  \"stats\": \x7b", "    \"records\": 2,", "    \"skipped\": 0,",
      "    \"overflowed\": 0,", "    \"names\": 2,", "    \"nodes\": 2,",
      "    \"surviving_nodes\": 1,", "    \"passes\": 1,", "    \"merges\": 1,",
      "    \"groups\": 1", "  \x7d", "\x7d"] := by
  decide +kernel

/-- **What is printed of the findings about a dump.** -/
theorem Invocation.output_ofDump (inv : Invocation) (text : String) (how : Reduction) :
    let found := Findings.ofDump text how
    inv.output found =
      (if inv.quiet then "" else match inv.format with
        | .text => textReport found.groups
        | .json => jsonReport found.groups found.stats) ++
        (if inv.stats ∧ inv.format = .text then statsReport found.stats else "") := by
  intro found
  have hjson : found.toJson.indented 0 ++ "\n" = jsonReport found.groups found.stats := by
    refine Findings.indented_toJson (fun g hg hempty => ?_) fun g hg x =>
      wellFormed_of_mem_members hg
    have hsize := (Relation.mem_aliasGroups_iff.1 hg).2
    rw [hempty] at hsize
    exact absurd hsize (by decide)
  have hrender : inv.format.render found = match inv.format with
      | .text => textReport found.groups
      | .json => jsonReport found.groups found.stats := by
    cases inv.format
    · exact text_eq_textReport found
    · exact hjson
  rw [Invocation.output, hrender, statsText_eq_statsReport]

end Aliasing
