import Mathlib.Data.List.Forall2
import ServiceAdmin.Proofs.Report.OneLine
import ServiceAdmin.Proofs.Report.Table
import ServiceAdmin.Proofs.Report.Wrap

/-!
# The lines of a report

If no text of an application has a line feed, the report is the blocks of the applications in their
order with a blank line between them, and a block has one line for each label and each instance and
as many for the buildpack as its length asks for (`exists_view_eq_unlines`).
-/

namespace ServiceAdmin.Report

/-! ## Texts that are shown -/

/-- No text of the instance has a line feed. -/
structure AppInstance.IsUnbroken (a : AppInstance) : Prop where
  state : IsOneLine a.state
  details : IsOneLine a.details

/-- No text of the application has a line feed. -/
structure BackingApp.IsUnbroken (app : BackingApp) : Prop where
  name : IsOneLine app.name
  buildpack : IsOneLine app.buildpack
  stack : IsOneLine app.stack
  requestedState : IsOneLine app.requestedState
  routes : ∀ route ∈ app.routes, IsOneLine route
  instances : ∀ a ∈ app.instances, a.IsUnbroken

variable {app : BackingApp} {a : AppInstance}

theorem isOneLine_percentage (load : Number.Binary64) : IsOneLine (percentage load) :=
  (isOneLine_fixed 1 _).append (by decide)

theorem isOneLine_usage (used quota : Nat) : IsOneLine (usage used quota) :=
  ((isOneLine_byteSize used).append (by decide)).append (isOneLine_byteSize quota)

theorem length_row (a : AppInstance) : a.row.length = instanceHeaders.length := by
  simp only [AppInstance.row, instanceHeaders, List.length_cons]

theorem AppInstance.IsUnbroken.row (h : a.IsUnbroken) : ∀ s ∈ a.row, IsOneLine s := by
  simp only [AppInstance.row, List.forall_mem_cons]
  exact ⟨IsOneLine.append (by decide) (isOneLine_nat _), isOneLine_lowercase h.state,
    isOneLine_rfc3339 _, isOneLine_percentage _, isOneLine_usage _ _, isOneLine_usage _ _,
    h.details, fun _ hmem => nomatch hmem⟩

/-! ## Lines -/

theorem unlines_append (lines others : List (List Char)) :
    unlines (lines ++ others) = unlines lines ++ unlines others := by
  rw [unlines, List.flatMap_append, String.ofList_append]
  rfl

theorem unlines_cons_cons (line next : List Char) (lines : List (List Char)) :
    unlines (line :: next :: lines) = unlines [line] ++ unlines (next :: lines) :=
  unlines_append [line] (next :: lines)

theorem intercalate_unlines (blocks : List (List (List Char))) :
    "\n".intercalate (blocks.map unlines) = unlines ([[]].intercalate blocks) := by
  induction blocks with
  | nil => rfl
  | cons block blocks ih =>
    by_cases hnil : blocks = []
    · rw [hnil, List.map_singleton, String.intercalate_singleton, List.intercalate_singleton]
    · rw [List.map_cons, String.intercalate_cons_of_ne_nil (mt List.map_eq_nil_iff.1 hnil), ih,
        List.intercalate_cons_of_ne_nil hnil, unlines_append, unlines_append]
      rfl

/-- A label filled up to the margin. -/
def margined (label : String) : List Char :=
  label.toList ++ List.replicate (labelWidth - label.length) ' '

theorem field_eq_unlines (label value : String) :
    field label value = unlines [margined label ++ value.toList] := by
  apply String.toList_inj.1
  simp [field, margined, unlines]

theorem lineFeed_notMem_margined {label : String} (h : IsOneLine label) :
    '\n' ∉ margined label := by
  rw [margined, List.mem_append]
  exact not_or.2 ⟨h, fun hmem => absurd (List.eq_of_mem_replicate hmem) (by decide)⟩

/-- The lines of a buildpack. -/
def buildpackLines (buildpack : String) : List (List Char) :=
  hanging (margined "buildpack:") (margined "") (chunks 131 buildpack.toList)

theorem field_wrap_eq_unlines (buildpack : String) :
    field "buildpack:" (wrap buildpack buildpackWidth labelWidth) =
      unlines (buildpackLines buildpack) := by
  rw [unlines, buildpackLines, ← append_intercalate_eq]
  apply String.toList_inj.1
  simp [field, wrap, margined, buildpackWidth, labelWidth]

/-! ## Blocks -/

/-- The labels of a block in their order. -/
def labels : List String :=
  ["backing app name:", "requested state:", "instances:", "usage:", "routes:", "last uploaded:",
    "stack:"]

/-- The lines of a block. -/
structure Block where
  labelled : List (List Char)
  buildpack : List (List Char)
  title : List Char
  instances : List (List Char)

def Block.lines (b : Block) : List (List Char) :=
  b.labelled ++ b.buildpack ++ [] :: b.title :: b.instances

/-- The block has a line for each label and each instance and tells the whole buildpack. -/
structure Block.IsOf (app : BackingApp) (b : Block) : Prop where
  labelled : List.Forall₂ (fun label line => label.toList <+: line) labels b.labelled
  name : b.labelled.head? = some ("backing app name: " ++ app.name).toList
  buildpack_label : ∃ line ∈ b.buildpack.head?, "buildpack:".toList <+: line
  length_buildpack : b.buildpack.length = max 1 ((app.buildpack.length + 131) / 132)
  flatMap_buildpack : b.buildpack.flatMap (List.drop 18) = app.buildpack.toList
  title : IsLineOf instanceHeaders b.title
  instances : List.Forall₂ (fun a line =>
    a.row.head? = some ("#" ++ toString a.index) ∧ IsLineOf a.row line) app.instances b.instances
  unbroken : ∀ line ∈ b.lines, '\n' ∉ line

/-- What stands behind the labels. -/
def BackingApp.values (zone : Zone) (app : BackingApp) : List String :=
  [app.name, Text.lowercase app.requestedState, s!"{app.runningInstances}/{app.numInstances}",
    megabyteSize app.memory ++ s!" x {app.numInstances} instances", ", ".intercalate app.routes,
    localTime zone app.lastUploaded, app.stack]

theorem length_values (zone : Zone) (app : BackingApp) :
    labels.length = (app.values zone).length := by
  simp only [labels, BackingApp.values, List.length_cons]

/-- A line for each label, with the value behind it. -/
def labelledLines (labels values : List String) : List (List Char) :=
  (labels.zip values).map fun (label, value) => margined label ++ value.toList

theorem forall₂_labelledLines {labels values : List String}
    (hlength : labels.length = values.length) :
    List.Forall₂ (fun label line => label.toList <+: line) labels
      (labelledLines labels values) := by
  induction labels generalizing values with
  | nil => exact .nil
  | cons label labels ih =>
    obtain ⟨value, values, rfl⟩ := List.exists_cons_of_length_eq_add_one hlength.symm
    refine .cons ?_ (ih (Nat.succ.inj hlength))
    exact (List.prefix_append _ _).trans (List.prefix_append _ _)

theorem lineFeed_notMem_labelledLines {labels values : List String}
    (hlabels : ∀ label ∈ labels, IsOneLine label) (hvalues : ∀ value ∈ values, IsOneLine value) :
    ∀ line ∈ labelledLines labels values, '\n' ∉ line := by
  intro line hline hmem
  obtain ⟨⟨label, value⟩, hpair, rfl⟩ := List.mem_map.1 hline
  obtain ⟨hlabel, hvalue⟩ := List.of_mem_zip hpair
  rcases List.mem_append.1 hmem with hmem | hmem
  · exact lineFeed_notMem_margined (hlabels label hlabel) hmem
  · exact hvalues value hvalue hmem

theorem block_eq (zone : Zone) (app : BackingApp) :
    app.block zone =
      unlines (labelledLines labels (app.values zone) ++ buildpackLines app.buildpack ++ [[]]) ++
        table instanceHeaders (app.instances.map AppInstance.row) := by
  rw [BackingApp.block, field_wrap_eq_unlines, unlines_append, unlines_append]
  simp only [field_eq_unlines, labelledLines, labels, BackingApp.values, List.zip_cons_cons,
    List.zip_nil_left, List.map_cons, List.map_nil, unlines_cons_cons, String.append_assoc]
  have hblank : "\n" = unlines [[]] := rfl
  rw [hblank]

theorem BackingApp.IsUnbroken.values (h : app.IsUnbroken) (zone : Zone) :
    ∀ s ∈ app.values zone, IsOneLine s := by
  have hinstances : IsOneLine s!"{app.runningInstances}/{app.numInstances}" :=
    ((isOneLine_nat _).append (by decide)).append (isOneLine_nat _)
  have husage : IsOneLine (megabyteSize app.memory ++ s!" x {app.numInstances} instances") := by
    rw [megabyteSize]
    exact (isOneLine_byteSize _).append
      ((IsOneLine.append (by decide) (isOneLine_nat _)).append (by decide))
  simp only [BackingApp.values, List.forall_mem_cons]
  exact ⟨h.name, isOneLine_lowercase h.requestedState, hinstances, husage,
    isOneLine_intercalate (by decide) h.routes, isOneLine_localTime _ _, h.stack,
    fun _ hmem => nomatch hmem⟩

theorem lineFeed_notMem_buildpackLines {buildpack : String} (h : IsOneLine buildpack) :
    ∀ line ∈ buildpackLines buildpack, '\n' ∉ line := by
  intro line hline hmem
  rcases mem_of_mem_hanging hline hmem with hlabel | hmargin | ⟨piece, hpiece, hmem⟩
  · exact lineFeed_notMem_margined (by decide) hlabel
  · exact lineFeed_notMem_margined (by decide) hmargin
  · exact h (mem_of_mem_chunks hpiece hmem)

/-- **An application without line feeds is shown as a block of lines.** -/
theorem exists_block_eq_unlines (zone : Zone) (h : app.IsUnbroken) :
    ∃ b, Block.IsOf app b ∧ app.block zone = unlines b.lines := by
  have hrows : ∀ row ∈ app.instances.map AppInstance.row, ∀ s ∈ row, '\n' ∉ s.toList := by
    intro row hrow
    obtain ⟨a, ha, rfl⟩ := List.mem_map.1 hrow
    exact (h.instances a ha).row
  have hlength : ∀ row ∈ app.instances.map AppInstance.row,
      row.length = instanceHeaders.length := by
    intro row hrow
    obtain ⟨a, -, rfl⟩ := List.mem_map.1 hrow
    exact length_row a
  obtain ⟨line, htable, hline⟩ := exists_table_eq_unlines instanceHeaders
    (app.instances.map AppInstance.row) hlength (by decide) hrows
  obtain ⟨htitle, hinstances⟩ := List.forall_mem_cons.1 hline
  have hinstance : ∀ a ∈ app.instances, IsLineOf a.row (line a.row) := fun a ha =>
    hinstances a.row (List.mem_map_of_mem ha)
  refine ⟨⟨labelledLines labels (app.values zone), buildpackLines app.buildpack,
    line instanceHeaders, app.instances.map fun a => line a.row⟩,
    ⟨?_, ?_, ?_, ?_, ?_, htitle, ?_, ?_⟩, ?_⟩
  · exact forall₂_labelledLines (length_values zone app)
  · rw [String.toList_append]
    rfl
  · obtain ⟨first, hfirst, hprefix⟩ := exists_head?_hanging (margined "buildpack:") (margined "")
      (chunks 131 app.buildpack.toList)
    exact ⟨first, hfirst, (List.prefix_append _ _).trans hprefix⟩
  · rw [buildpackLines, length_hanging, length_chunks, String.length_toList]
  · rw [buildpackLines, flatMap_drop_hanging (by decide) (by decide), flatten_chunks]
  · rw [List.forall₂_map_right_iff, List.forall₂_same]
    exact fun a ha => ⟨rfl, hinstance a ha⟩
  · simp only [Block.lines, List.forall_mem_append, List.forall_mem_cons]
    refine ⟨⟨lineFeed_notMem_labelledLines (by decide) (h.values zone),
      lineFeed_notMem_buildpackLines h.buildpack⟩, List.not_mem_nil, htitle.unbroken,
      fun other hother => ?_⟩
    obtain ⟨a, ha, rfl⟩ := List.mem_map.1 hother
    exact (hinstance a ha).unbroken
  · rw [block_eq, htable, List.map_map, ← unlines_append, Block.lines]
    simp only [List.append_assoc, List.singleton_append]
    rfl

/-- **A report without line feeds in its texts is the blocks of the applications**, with a blank
line between them. -/
theorem exists_view_eq_unlines (zone : Zone) (apps : List BackingApp)
    (h : ∀ app ∈ apps, app.IsUnbroken) :
    ∃ blocks : List Block, List.Forall₂ Block.IsOf apps blocks ∧
      view zone apps = unlines ([[]].intercalate (blocks.map Block.lines)) := by
  obtain ⟨blocks, hblocks, htext⟩ : ∃ blocks : List Block, List.Forall₂ Block.IsOf apps blocks ∧
      apps.map (BackingApp.block zone) = (blocks.map Block.lines).map unlines := by
    induction apps with
    | nil => exact ⟨[], .nil, rfl⟩
    | cons app apps ih =>
      obtain ⟨happ, happs⟩ := List.forall_mem_cons.1 h
      obtain ⟨b, hb, hblock⟩ := exists_block_eq_unlines zone happ
      obtain ⟨blocks, hblocks, htext⟩ := ih happs
      refine ⟨b :: blocks, .cons hb hblocks, ?_⟩
      rw [List.map_cons, hblock, htext]
      rfl
  exact ⟨blocks, hblocks, by rw [view, htext, intercalate_unlines]⟩

/-- An application without instances, with a buildpack that needs a second line. -/
def stoppedApp : BackingApp :=
  ⟨"shop", String.ofList (List.replicate 133 'b'), "", 1024, 1, 0, "STOPPED", [], 0, []⟩

/-- An application with an instance that tells nothing of itself. -/
def crashedApp : BackingApp :=
  ⟨"", "", "cflinuxfs4", 0, 1, 0, "STARTED", ["a.example", "b.example"], -1,
    [⟨7, "", -1, ⟨false, .zero⟩, 0, 0, 0, 0, ""⟩]⟩

theorem exists_view_eq_unlines_stopped_crashed :
    ∃ blocks : List Block, List.Forall₂ Block.IsOf [stoppedApp, crashedApp] blocks ∧
      view Zone.utc [stoppedApp, crashedApp] =
        unlines ([[]].intercalate (blocks.map Block.lines)) := by
  refine exists_view_eq_unlines Zone.utc [stoppedApp, crashedApp] ?_
  have hstopped : stoppedApp.IsUnbroken :=
    ⟨by decide, by decide +kernel, by decide, by decide, by decide, fun _ hmem => nomatch hmem⟩
  have hcrashed : crashedApp.IsUnbroken :=
    ⟨by decide, by decide, by decide, by decide, by decide,
      List.forall_mem_singleton.2 ⟨by decide, by decide⟩⟩
  exact List.forall_mem_cons.2 ⟨hstopped, List.forall_mem_singleton.2 hcrashed⟩

end ServiceAdmin.Report
