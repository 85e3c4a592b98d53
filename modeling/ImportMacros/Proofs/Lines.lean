import ImportMacros.Proofs.Pattern
import ImportMacros.Text.Blank
import Mathlib.Data.List.DropRight
import Mathlib.Data.List.Forall2

/-!
# ImportMacros.Proofs.Lines

Tidy code, read line by line (`tidyLines_byLine`): the lines of the code, each without the white
space at its ends, and without those of which nothing is left.

Tidying itself does not look at lines. It merges every line break with the white space around it,
and trims what it gets. A line break takes the whole run of white space in which it stands
(`before?_lineBreak`), so a text is merged run by run (`mergeBreaks_append`), and what stands on
both sides of any other character is merged apart (`mergeBreaks_split`). The end of a line and the
start of the next one are in one run, and that run becomes the one line break that is left between
them (`tidy_line`).
-/

namespace ImportMacros
namespace Text

open Pattern

variable {u v x y z : List Char} {c d : Char}

def AllBlank (u : List Char) : Prop := ∀ c ∈ u, isBlank c = true

/-- Nothing, or something that does not start with white space. -/
def StartsBare (cs : List Char) : Prop := ∀ c, cs.head? = some c → isBlank c = false

theorem allBlank_append : AllBlank (u ++ v) ↔ AllBlank u ∧ AllBlank v := List.forall_mem_append

theorem startsBare_cons : StartsBare (c :: x) ↔ isBlank c = false := by
  simp [StartsBare]

theorem exists_run (cs : List Char) : ∃ u rest, cs = u ++ rest ∧ AllBlank u ∧ StartsBare rest := by
  refine ⟨cs.takeWhile isBlank, cs.dropWhile isBlank, List.takeWhile_append_dropWhile.symm, ?_, ?_⟩
  · intro c hc
    exact List.mem_takeWhile_imp hc
  · intro c hc
    have hstop := List.head?_dropWhile_not isBlank cs
    rwa [hc] at hstop

/-- A text has no stop, or it goes on after its first one. -/
theorem stops_induct {motive : List Char → Prop} (stop : Char → Bool)
    (last : ∀ u, (∀ c ∈ u, stop c = false) → motive u)
    (more : ∀ u c cs, (∀ d ∈ u, stop d = false) → stop c = true → motive cs →
      motive (u ++ c :: cs)) (cs : List Char) : motive cs := by
  suffices h : ∀ u, (∀ c ∈ u, stop c = false) → motive (u ++ cs) from h [] nofun
  induction cs with
  | nil =>
    intro u hu
    rw [List.append_nil]
    exact last u hu
  | cons c cs ih =>
    intro u hu
    cases hc : stop c with
    | true => exact more u c cs hu hc (ih [] nofun)
    | false =>
      rw [List.append_cons]
      exact ih (u ++ [c]) (List.forall_mem_append.2 ⟨hu, List.forall_mem_singleton.2 hc⟩)

theorem runs_induct {motive : List Char → Prop} (allBlank : ∀ u, AllBlank u → motive u)
    (bare : ∀ u c cs, AllBlank u → isBlank c = false → motive cs → motive (u ++ c :: cs))
    (cs : List Char) : motive cs := by
  induction cs using stops_induct (fun c => !isBlank c) with
  | last u hu => exact allBlank u (by simpa [AllBlank] using hu)
  | more u c cs hu hc ih => exact bare u c cs (by simpa [AllBlank] using hu) (by simpa using hc) ih

theorem lines_induct {motive : List Char → Prop} (last : ∀ x, '\n' ∉ x → motive x)
    (more : ∀ x y, '\n' ∉ x → motive y → motive (x ++ '\n' :: y)) (cs : List Char) :
    motive cs := by
  have hnone : ∀ x : List Char, (∀ c ∈ x, (c == '\n') = false) → '\n' ∉ x := by
    intro x hx hmem
    simpa using hx '\n' hmem
  induction cs using stops_induct (· == '\n') with
  | last x hx => exact last x (hnone x hx)
  | more x c y hx hc ih =>
    obtain rfl : c = '\n' := by simpa using hc
    exact more x y (hnone x hx) ih

theorem allBlank_or_split (cs : List Char) :
    AllBlank cs ∨ ∃ x c u, cs = x ++ c :: u ∧ isBlank c = false ∧ AllBlank u := by
  induction cs using runs_induct with
  | allBlank u hu => exact .inl hu
  | bare u c cs hu hc ih =>
    rcases ih with hcs | ⟨x, d, v, rfl, hd, hv⟩
    · exact .inr ⟨u, c, cs, rfl, hc, hcs⟩
    · exact .inr ⟨u ++ c :: x, d, v, by simp, hd, hv⟩

/-! ## Line breaks -/

/-- What becomes of a run of white space. -/
def shrink (u : List Char) : List Char := if '\n' ∈ u then ['\n'] else u

theorem allBlank_shrink (hu : AllBlank u) : AllBlank (shrink u) := by
  unfold shrink
  split
  · intro c hc
    obtain rfl := List.mem_singleton.1 hc
    rfl
  · exact hu

/-- The longest stretch of white space before a line break is tried first. -/
theorem before?_lineBreak_cons (hc : isBlank c = true) (x : List Char) :
    lineBreak.before? some (c :: x) = (lineBreak.before? some x).or
      (before? (.seq (.one (· == '\n')) blanks) some (c :: x)) := by
  simp [lineBreak, blanks, before?, beforeRun?, hc]

theorem before?_lineBreak (hu : AllBlank u) (hx : StartsBare x) :
    lineBreak.before? some (u ++ x) = if '\n' ∈ u then some x else none := by
  -- The white space before the line break is given back up to the last line break of the run.
  induction u with
  | nil =>
    cases x with
    | nil => rfl
    | cons c x =>
      have hc : isBlank c = false := startsBare_cons.1 hx
      have hne : c ≠ '\n' := by
        rintro rfl
        cases hc
      simp [lineBreak, blanks, before?, beforeRun?, hc, hne]
  | cons c u ih =>
    obtain ⟨hc, hu'⟩ := List.forall_mem_cons.1 hu
    have hafter : blanks.before? some (u ++ x) = some x := by
      rw [blanks, before?_some, head?_maybe_run hu' hx]
      rfl
    rw [List.cons_append, before?_lineBreak_cons hc, ih hu']
    by_cases hmem : '\n' ∈ u
    · simp [hmem]
    · by_cases hbreak : c = '\n'
      · simp [hmem, hbreak, before?, hafter]
      · simp [hmem, hbreak, Ne.symm hbreak, before?]

theorem mergeBreaks_append (hu : AllBlank u) (hx : StartsBare x) :
    mergeBreaks (u ++ x) = shrink u ++ mergeBreaks x := by
  induction u with
  | nil => rfl
  | cons c u ih =>
    have hbreak := before?_lineBreak hu hx
    by_cases hmem : '\n' ∈ c :: u
    · rw [if_pos hmem] at hbreak
      rw [mergeBreaks, replaceAll_of_fits hbreak, shrink, if_pos hmem, mergeBreaks]
    · have hmem' : '\n' ∉ u := fun h => hmem (List.mem_cons_of_mem c h)
      have hu' : AllBlank u := (List.forall_mem_cons.1 hu).2
      rw [if_neg hmem, List.cons_append] at hbreak
      rw [List.cons_append, mergeBreaks, replaceAll_of_ne hbreak, ← mergeBreaks, ih hu', shrink,
        shrink, if_neg hmem, if_neg hmem', List.cons_append]

theorem mergeBreaks_cons (hc : isBlank c = false) (x : List Char) :
    mergeBreaks (c :: x) = c :: mergeBreaks x := by
  have hnone : lineBreak.before? some ([] ++ c :: x) = none :=
    before?_lineBreak nofun (startsBare_cons.2 hc)
  exact replaceAll_of_ne hnone

theorem mergeBreaks_allBlank (hu : AllBlank u) : mergeBreaks u = shrink u := by
  have hrun : mergeBreaks (u ++ []) = shrink u ++ [] := mergeBreaks_append hu nofun
  rwa [List.append_nil, List.append_nil] at hrun

theorem mergeBreaks_split (hc : isBlank c = false) (x y : List Char) :
    mergeBreaks (x ++ c :: y) = mergeBreaks x ++ c :: mergeBreaks y := by
  induction x using runs_induct with
  | allBlank u hu =>
    rw [mergeBreaks_append hu (startsBare_cons.2 hc), mergeBreaks_allBlank hu, mergeBreaks_cons hc]
  | bare u d x hu hd ih =>
    have hsplit (z : List Char) : mergeBreaks (u ++ d :: z) = shrink u ++ d :: mergeBreaks z := by
      rw [mergeBreaks_append hu (startsBare_cons.2 hd), mergeBreaks_cons hd]
    rw [List.append_assoc, List.cons_append, hsplit, hsplit, ih, List.append_assoc, List.cons_append]

theorem mergeBreaks_of_notMem (hx : '\n' ∉ x) : mergeBreaks x = x := by
  induction x using runs_induct with
  | allBlank u hu => rw [mergeBreaks_allBlank hu, shrink, if_neg hx]
  | bare u c x hu hc ih =>
    simp only [List.mem_append, List.mem_cons, not_or] at hx
    rw [mergeBreaks_append hu (startsBare_cons.2 hc), mergeBreaks_cons hc, shrink, if_neg hx.1,
      ih hx.2.2]

/-! ## Trimming -/

/-- `y` is `x` without the white space at both ends. -/
structure TrimsTo (x y : List Char) : Prop where
  around : ∃ u v, x = u ++ y ++ v ∧ AllBlank u ∧ AllBlank v
  start : StartsBare y
  stop : StartsBare y.reverse

theorem trim_append (hu : AllBlank u) (x : List Char) : trim (u ++ x) = trim x := by
  rw [trim, trim, List.dropWhile_append_of_pos hu]

theorem trimEnd_of_allBlank (hu : AllBlank u) : trimEnd u = [] := List.rdropWhile_eq_nil_iff.2 hu

theorem trimEnd_split (hc : isBlank c = false) (x y : List Char) :
    trimEnd (x ++ c :: y) = x ++ c :: trimEnd y := by
  have hstop : (c :: x.reverse).dropWhile isBlank = c :: x.reverse :=
    List.dropWhile_cons_of_neg (by simp [hc])
  rw [trimEnd, List.reverse_append, List.reverse_cons, List.append_assoc, List.singleton_append,
    List.dropWhile_append, hstop, trimEnd]
  split
  · rename_i hy
    simp [List.isEmpty_iff.1 hy]
  · simp

theorem trim_cons (hc : isBlank c = false) (x : List Char) : trim (c :: x) = c :: trimEnd x := by
  rw [trim, List.dropWhile_cons_of_neg (by simp [hc])]
  exact trimEnd_split hc [] x

theorem trim_around (hu : AllBlank u) (hx : StartsBare x) (hc : isBlank c = false) (y : List Char) :
    trim (u ++ x ++ c :: y) = x ++ c :: trimEnd y := by
  rw [List.append_assoc, trim_append hu]
  cases x with
  | nil => exact trim_cons hc y
  | cons d x =>
    rw [List.cons_append, trim_cons (startsBare_cons.1 hx), trimEnd_split hc, List.cons_append]

/-- What is cut off at the front does not depend on what comes after some other character. -/
theorem exists_trim_split (hc : isBlank c = false) (x : List Char) :
    ∃ front, ∀ y, trim (x ++ c :: y) = front ++ c :: trimEnd y := by
  obtain ⟨u, rest, rfl, hu, hrest⟩ := exists_run x
  exact ⟨rest, trim_around hu hrest hc⟩

theorem trim_of_allBlank (hu : AllBlank u) : trim u = [] := by
  have htrim := trim_append hu []
  rwa [List.append_nil] at htrim

theorem trim_split_allBlank (hc : isBlank c = false) (hu : AllBlank u) (x : List Char) :
    trim (x ++ c :: u) = trim (x ++ [c]) := by
  obtain ⟨front, hfront⟩ := exists_trim_split hc x
  rw [hfront, hfront, trimEnd_of_allBlank hu]
  rfl

theorem trimsTo_trim (x : List Char) : TrimsTo x (trim x) := by
  rcases allBlank_or_split x with hx | ⟨x, c, v, rfl, hc, hv⟩
  · rw [trim_of_allBlank hx]
    exact ⟨⟨x, [], by simp, hx, nofun⟩, nofun, nofun⟩
  · obtain ⟨u, rest, rfl, hu, hrest⟩ := exists_run x
    rw [trim_around hu hrest hc, trimEnd_of_allBlank hv]
    refine ⟨⟨u, v, by simp, hu, hv⟩, ?_, ?_⟩
    · cases rest with
      | nil => exact startsBare_cons.2 hc
      | cons d rest => exact startsBare_cons.2 (startsBare_cons.1 hrest)
    · rw [List.reverse_append]
      exact startsBare_cons.2 hc

theorem TrimsTo.eq (h : TrimsTo x y) : trim x = y := by
  obtain ⟨⟨u, v, rfl, hu, hv⟩, hstart, hstop⟩ := h
  rcases List.eq_nil_or_concat' y with rfl | ⟨y, c, rfl⟩
  · exact trim_of_allBlank (allBlank_append.2 ⟨allBlank_append.2 ⟨hu, nofun⟩, hv⟩)
  · have hc : isBlank c = false := startsBare_cons.1 (by simpa using hstop)
    have hy : StartsBare y := fun d hd => hstart d (by simp [List.head?_append, hd])
    rw [List.append_assoc, List.append_assoc, List.singleton_append, ← List.append_assoc,
      trim_around hu hy hc, trimEnd_of_allBlank hv]

theorem trim_trim (x : List Char) : trim (trim x) = trim x := by
  obtain ⟨-, hstart, hstop⟩ := trimsTo_trim x
  exact TrimsTo.eq ⟨⟨[], [], by simp, nofun, nofun⟩, hstart, hstop⟩

theorem mem_of_mem_trim (h : c ∈ trim x) : c ∈ x := by
  obtain ⟨u, v, hx, -, -⟩ := (trimsTo_trim x).around
  rw [hx]
  exact List.mem_append_left v (List.mem_append_right u h)

/-! ## Lines -/

/-- The lines of some code, trimmed, without the empty ones. -/
def codeLines (cs : List Char) : List (List Char) :=
  ((cs.splitOn '\n').map trim).filter (· ≠ [])

theorem codeLines_of_notMem (hx : '\n' ∉ x) : codeLines x = [trim x].filter (· ≠ []) := by
  rw [codeLines, List.splitOn_eq_singleton hx]
  rfl

theorem codeLines_append (hx : '\n' ∉ x) (y : List Char) :
    codeLines (x ++ '\n' :: y) = [trim x].filter (· ≠ []) ++ codeLines y := by
  rw [codeLines, List.splitOn_append_cons_self_of_not_mem hx, List.map_cons, ← List.singleton_append,
    List.filter_append, codeLines]

theorem of_mem_codeLines {l : List Char} (h : l ∈ codeLines x) :
    l ≠ [] ∧ '\n' ∉ l ∧ trim l = l := by
  have hline : ∀ x, '\n' ∉ x → l ∈ [trim x].filter (· ≠ []) → l ≠ [] ∧ '\n' ∉ l ∧ trim l = l := by
    intro x hx hmem
    obtain ⟨hl, hne⟩ := List.mem_filter.1 hmem
    obtain rfl := List.mem_singleton.1 hl
    exact ⟨by simpa using hne, fun hbreak => hx (mem_of_mem_trim hbreak), trim_trim x⟩
  induction x using lines_induct with
  | last x hx =>
    rw [codeLines_of_notMem hx] at h
    exact hline x hx h
  | more x y hx ih =>
    rw [codeLines_append hx, List.mem_append] at h
    exact h.elim (hline x hx) ih

theorem intercalate_codeLines_eq_nil (x : List Char) :
    ['\n'].intercalate (codeLines x) = [] ↔ codeLines x = [] := by
  cases hlines : codeLines x with
  | nil => simp
  | cons l more =>
    have hl : l ≠ [] := (of_mem_codeLines (hlines ▸ List.mem_cons_self)).1
    cases more <;> simp [hl]

theorem tidy_append (hu : AllBlank u) (x : List Char) : tidy (u ++ x) = tidy x := by
  obtain ⟨v, rest, rfl, hv, hrest⟩ := exists_run x
  have huv : AllBlank (u ++ v) := allBlank_append.2 ⟨hu, hv⟩
  have htidy (w : List Char) (hw : AllBlank w) : tidy (w ++ rest) = trim (mergeBreaks rest) := by
    rw [tidy, mergeBreaks_append hw hrest, trim_append (allBlank_shrink hw)]
  rw [← List.append_assoc, htidy _ huv, htidy _ hv]

theorem tidy_of_notMem (hx : '\n' ∉ x) : tidy x = trim x := by
  rw [tidy, mergeBreaks_of_notMem hx]

theorem tidy_cons (hc : isBlank c = false) (x : List Char) :
    tidy (c :: x) = c :: trimEnd (mergeBreaks x) := by
  rw [tidy, mergeBreaks_cons hc, trim_cons hc]

/-- A line break at the front of tidy code stays if there is any. -/
theorem trimEnd_break (hx : StartsBare x) :
    trimEnd ('\n' :: mergeBreaks x) = if tidy x = [] then [] else '\n' :: tidy x := by
  cases x with
  | nil => rfl
  | cons c x =>
    have hc : isBlank c = false := startsBare_cons.1 hx
    rw [mergeBreaks_cons hc, tidy_cons hc, if_neg (List.cons_ne_nil _ _)]
    exact trimEnd_split hc ['\n'] (mergeBreaks x)

/-- After a line that holds something, one line break is left if the rest holds something too. -/
theorem tidy_line (hx : '\n' ∉ x) (hc : isBlank c = false) (hu : AllBlank u) (hbreak : '\n' ∈ u)
    (y : List Char) :
    tidy (x ++ c :: (u ++ y)) =
      trim (x ++ [c]) ++ if tidy y = [] then [] else '\n' :: tidy y := by
  obtain ⟨v, rest, rfl, hv, hrest⟩ := exists_run y
  obtain ⟨front, hfront⟩ := exists_trim_split hc x
  have huv : AllBlank (u ++ v) := allBlank_append.2 ⟨hu, hv⟩
  have hshrink : shrink (u ++ v) = ['\n'] := if_pos (List.mem_append_left v hbreak)
  have hmerge : mergeBreaks (x ++ c :: (u ++ (v ++ rest))) =
      x ++ c :: '\n' :: mergeBreaks rest := by
    rw [mergeBreaks_split hc, mergeBreaks_of_notMem hx, ← List.append_assoc,
      mergeBreaks_append huv hrest, hshrink, List.singleton_append]
  have hline : trim (x ++ [c]) = front ++ [c] := hfront []
  rw [tidy_append hv, tidy, hmerge, hfront, trimEnd_break hrest, hline, ← List.append_cons]

theorem tidy_eq_intercalate (x : List Char) : tidy x = ['\n'].intercalate (codeLines x) := by
  induction x using lines_induct with
  | last x hx =>
    rw [tidy_of_notMem hx, codeLines_of_notMem hx]
    by_cases htrim : trim x = [] <;> simp [htrim]
  | more x y hx ih =>
    rw [codeLines_append hx]
    rcases allBlank_or_split x with hblank | ⟨x, c, u, rfl, hc, hu⟩
    · have hbreak : AllBlank (x ++ ['\n']) :=
        allBlank_append.2 ⟨hblank, List.forall_mem_singleton.2 rfl⟩
      rw [trim_of_allBlank hblank, List.append_cons, tidy_append hbreak, ih]
      rfl
    · have hbreak : AllBlank (u ++ ['\n']) :=
        allBlank_append.2 ⟨hu, List.forall_mem_singleton.2 rfl⟩
      have hx' : '\n' ∉ x := fun hmem => hx (List.mem_append_left _ hmem)
      have hne : trim (x ++ [c]) ≠ [] := by
        obtain ⟨front, hfront⟩ := exists_trim_split hc x
        simp [hfront]
      have htext : x ++ c :: u ++ '\n' :: y = x ++ c :: (u ++ ['\n'] ++ y) := by simp
      have hfilter : [trim (x ++ [c])].filter (· ≠ []) = [trim (x ++ [c])] := by simp [hne]
      rw [htext, tidy_line hx' hc hbreak (by simp), trim_split_allBlank hc hu, hfilter, ih,
        List.singleton_append]
      by_cases hnil : codeLines y = []
      · rw [if_pos ((intercalate_codeLines_eq_nil y).2 hnil), hnil, List.intercalate_singleton,
          List.append_nil]
      · rw [if_neg ((intercalate_codeLines_eq_nil y).not.2 hnil),
          List.intercalate_cons_of_ne_nil hnil, List.append_assoc, List.singleton_append]

theorem codeLines_tidy (x : List Char) : codeLines (tidy x) = codeLines x := by
  have hbare : ∀ l ∈ codeLines x, '\n' ∉ l := fun l hl => (of_mem_codeLines hl).2.1
  rw [tidy_eq_intercalate]
  by_cases hnil : codeLines x = []
  · rw [hnil]
    rfl
  · have hmap : (codeLines x).map trim = codeLines x := calc
      _ = (codeLines x).map id := List.map_congr_left fun l hl => (of_mem_codeLines hl).2.2
      _ = codeLines x := List.map_id _
    rw [codeLines, List.splitOn_intercalate '\n' hbare hnil, hmap, List.filter_eq_self]
    intro l hl
    simpa using (of_mem_codeLines hl).1

/-- What is on one line between two characters that are no white space stays. -/
theorem exists_tidy_split (hc : isBlank c = false) (hd : isBlank d = false) (hz : '\n' ∉ z)
    (x y : List Char) : ∃ front back, tidy (x ++ [c]) = front ++ [c] ∧ tidy (d :: y) = d :: back ∧
      tidy (x ++ c :: (z ++ d :: y)) = front ++ c :: (z ++ d :: back) := by
  obtain ⟨front, hfront⟩ := exists_trim_split hc (mergeBreaks x)
  refine ⟨front, trimEnd (mergeBreaks y), ?_, tidy_cons hd y, ?_⟩
  · rw [tidy, mergeBreaks_split hc, hfront]
    rfl
  · rw [tidy, mergeBreaks_split hc, mergeBreaks_split hd, mergeBreaks_of_notMem hz, hfront,
      trimEnd_split hd]

/-- Tidy code consists of the lines of the code, each without the white space at its ends, and
without those of which nothing is left. Tidy code stays as it is when it is tidied again. What is on
one line between two characters that are no white space stays, white space or not, and around it
stands what tidying makes of the code up to the first and from the second of these characters. -/
theorem tidyLines_byLine (code : String) :
    (∃ lines, List.Forall₂ TrimsTo (code.toList.splitOn '\n') lines ∧
      (tidyLines code).toList = ['\n'].intercalate (lines.filter (· ≠ []))) ∧
    tidyLines (tidyLines code) = tidyLines code ∧
    ∀ x c z d y, code.toList = x ++ c :: (z ++ d :: y) → isBlank c = false → isBlank d = false →
      '\n' ∉ z → ∃ front back, tidy (x ++ [c]) = front ++ [c] ∧ tidy (d :: y) = d :: back ∧
        (tidyLines code).toList = front ++ c :: (z ++ d :: back) := by
  have htoList : (tidyLines code).toList = tidy code.toList := String.toList_ofList
  refine ⟨⟨(code.toList.splitOn '\n').map trim, ?_, ?_⟩, ?_, ?_⟩
  · exact List.forall₂_map_right_iff.2 (List.forall₂_same.2 fun l _ => trimsTo_trim l)
  · rw [htoList, tidy_eq_intercalate, codeLines]
  · rw [tidyLines, htoList, tidy_eq_intercalate, codeLines_tidy, ← tidy_eq_intercalate, tidyLines]
  · intro x c z d y hcode hc hd hz
    rw [htoList, hcode]
    exact exists_tidy_split hc hd hz x y

theorem tidyLines_byLine_returning :
    let code := "\t a =\r b ;\u00a0\r\n \n c ; "
    tidyLines code = "a =\r b ;\nc ;" ∧
    ∃ front back, tidy ("\t a ".toList ++ ['=']) = front ++ ['='] ∧
      tidy ('b' :: " ;\u00a0\r\n \n c ; ".toList) = 'b' :: back ∧
      (tidyLines code).toList = front ++ '=' :: ("\r ".toList ++ 'b' :: back) := by
  intro code
  have hcode : code.toList =
      "\t a ".toList ++ '=' :: ("\r ".toList ++ 'b' :: " ;\u00a0\r\n \n c ; ".toList) := by
    decide
  refine ⟨by decide, ?_⟩
  obtain ⟨-, -, hinside⟩ := tidyLines_byLine code
  exact hinside _ _ _ _ _ hcode rfl rfl (by decide)

end Text
end ImportMacros
