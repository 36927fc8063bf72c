import Butido.Package.TreeQuery

/-!
# `Tree::debug_print`

`debug_print` writes one line per package node: `print_recursive` walks the entries of a map in
key order, writes `writeln!(sink, "{:indent$}- {:?}", " ", k, indent = indent*2)` and recurses
into the entry's subtree one level deeper. The format `{:indent$}` pads the string `" "` to
width `indent*2`, so a line at depth `d` starts with `max 1 (2*d)` spaces: one at depth `0`, two
at depth `1`, four at depth `2`. `Package`'s `Debug` is not under `src/`;
it is the parameter `debug`. The model's sink accepts every write: the I/O errors that `?`
passes on are left out.

* `outline t d` is the sequence of `(depth, package)` the lines are written for: the nodes of the
  tree in preorder (`outline_map_snd`), and the text is its lines one after the other
  (`printRecursive_data`).
* The text determines the tree (`debugPrint_injective`), as long as `Debug` is injective and
  writes no newline: the lines split at their newlines, each line's indentation gives its depth,
  and the lines of one subtree are those up to the next line at the same or a smaller depth.
-/

namespace Butido.Package.Tree

variable {P : Type}

/-! ## The model -/

/-- `format!("{:width$}", " ")`: the string `" "` padded with spaces to `width`. -/
def pad (width : Nat) : String := String.mk (List.replicate (max 1 width) ' ')

/-- The line `writeln!(sink, "{:indent$}- {:?}", " ", k, indent = indent*2)` writes. -/
def printLine (debug : P → String) (indent : Nat) (k : P) : String :=
  pad (indent * 2) ++ "- " ++ debug k ++ "\n"

mutual
/-- `print_recursive(tree, sink, indent)`: what it writes to the sink. -/
def printRecursive (debug : P → String) : Tree P → Nat → String
  | mk root, indent => printEntries debug root indent

/-- `for (k, v) in tree.root.iter()`: the line of `k`, then the subtree `v` one level deeper. -/
def printEntries (debug : P → String) : List (P × Tree P) → Nat → String
  | [], _ => ""
  | (k, v) :: rest, indent =>
    printLine debug indent k ++ printRecursive debug v (indent + 1) ++ printEntries debug rest indent
end

/-- `Tree::debug_print`: what it writes to the sink, from indent `0`. -/
def debugPrint (debug : P → String) (t : Tree P) : String := printRecursive debug t 0

/-! ## The outline -/

mutual
/-- The `(depth, package)` of each line, in the order the lines are written. -/
def outline : Tree P → Nat → List (Nat × P)
  | mk root, d => outlineOf root d

/-- The outline of the entries of a map at depth `d`. -/
def outlineOf : List (P × Tree P) → Nat → List (Nat × P)
  | [], _ => []
  | (k, v) :: rest, d => (d, k) :: (outline v (d + 1) ++ outlineOf rest d)
end

@[simp] theorem outline_mk (r : List (P × Tree P)) (d : Nat) : (mk r).outline d = outlineOf r d := by
  simp [outline]

@[simp] theorem outlineOf_nil (d : Nat) : outlineOf ([] : List (P × Tree P)) d = [] := by
  simp [outlineOf]

@[simp] theorem outlineOf_cons (k : P) (v : Tree P) (rest : List (P × Tree P)) (d : Nat) :
    outlineOf ((k, v) :: rest) d = (d, k) :: (v.outline (d + 1) ++ outlineOf rest d) := by
  simp [outlineOf]

mutual
/-- The outline lists the package nodes in preorder, the order of `Tree.nodes`. -/
theorem outline_map_snd : ∀ (t : Tree P) (d : Nat),
    (t.outline d).map Prod.snd = t.nodes.map Prod.fst
  | mk r, d => by simpa using outlineOf_map_snd r d

theorem outlineOf_map_snd : ∀ (r : List (P × Tree P)) (d : Nat),
    (outlineOf r d).map Prod.snd = (nodesOf r).map Prod.fst
  | [], _ => by simp
  | (k, v) :: rest, d => by simp [outline_map_snd v, outlineOf_map_snd rest d]
end

mutual
/-- Every line of a subtree printed at depth `d` is at depth `d` or more. -/
theorem le_of_mem_outline : ∀ (t : Tree P) (d : Nat), ∀ e ∈ t.outline d, d ≤ e.1
  | mk r, d => by simpa using le_of_mem_outlineOf r d

theorem le_of_mem_outlineOf : ∀ (r : List (P × Tree P)) (d : Nat), ∀ e ∈ outlineOf r d, d ≤ e.1
  | [], _ => by simp
  | (k, v) :: rest, d => by
    simp only [outlineOf_cons, List.mem_cons, List.mem_append]
    rintro e (rfl | he | he)
    · exact le_rfl
    · exact Nat.le_of_succ_le (le_of_mem_outline v (d + 1) e he)
    · exact le_of_mem_outlineOf rest d e he
end

/-- The lines of a subtree at depth `d + 1` are those before the next line at depth `d`. -/
theorem takeWhile_outline_append (v : Tree P) (rest : List (P × Tree P)) (d : Nat) :
    (v.outline (d + 1) ++ outlineOf rest d).takeWhile (fun e => d < e.1) = v.outline (d + 1) ∧
      (v.outline (d + 1) ++ outlineOf rest d).dropWhile (fun e => d < e.1) = outlineOf rest d := by
  have hv : ∀ e ∈ v.outline (d + 1), decide (d < e.1) = true := fun e he =>
    decide_eq_true (le_of_mem_outline v (d + 1) e he)
  rw [List.takeWhile_append_of_pos hv, List.dropWhile_append_of_pos hv]
  cases rest with
  | nil => simp
  | cons x rest => obtain ⟨k, w⟩ := x; simp

mutual
/-- The outline determines the tree. -/
theorem outline_injective : ∀ (t t' : Tree P) (d : Nat), t.outline d = t'.outline d → t = t'
  | mk r, mk r', d, h => by
    rw [outlineOf_injective r r' d (by simpa using h)]

theorem outlineOf_injective : ∀ (r r' : List (P × Tree P)) (d : Nat),
    outlineOf r d = outlineOf r' d → r = r'
  | [], [], _, _ => rfl
  | [], (_, _) :: _, _, h => by simp at h
  | (_, _) :: _, [], _, h => by simp at h
  | (k, v) :: rest, (k', v') :: rest', d, h => by
    simp only [outlineOf_cons, List.cons.injEq, Prod.mk.injEq, true_and] at h
    obtain ⟨rfl, h⟩ := h
    have hv := takeWhile_outline_append v rest d
    have hv' := takeWhile_outline_append v' rest' d
    rw [h] at hv
    rw [outline_injective v v' (d + 1) (hv.1.symm.trans hv'.1),
      outlineOf_injective rest rest' d (hv.2.symm.trans hv'.2)]
end

/-! ## The text -/

/-- A line without its newline: the indentation, `"- "` and the package. -/
def lineBody (debug : P → String) (e : Nat × P) : List Char :=
  List.replicate (max 1 (e.1 * 2)) ' ' ++ '-' :: ' ' :: (debug e.2).data

theorem printLine_data (debug : P → String) (indent : Nat) (k : P) :
    (printLine debug indent k).data = lineBody debug (indent, k) ++ ['\n'] := by
  simp [printLine, pad, lineBody]

mutual
/-- The text is the outline's lines, one after the other. -/
theorem printRecursive_data (debug : P → String) : ∀ (t : Tree P) (d : Nat),
    (printRecursive debug t d).data = ((t.outline d).map fun e => lineBody debug e ++ ['\n']).flatten
  | mk r, d => by simpa [printRecursive] using printEntries_data debug r d

theorem printEntries_data (debug : P → String) : ∀ (r : List (P × Tree P)) (d : Nat),
    (printEntries debug r d).data =
      ((outlineOf r d).map fun e => lineBody debug e ++ ['\n']).flatten
  | [], _ => by simp [printEntries]
  | (k, v) :: rest, d => by
    simp [printEntries, printLine_data, printRecursive_data debug v, printEntries_data debug rest]
end

/-- Two lines, each followed by a newline it does not contain, split at that newline. -/
theorem append_newline_inj : ∀ {l l' r r' : List Char}, '\n' ∉ l → '\n' ∉ l' →
    l ++ '\n' :: r = l' ++ '\n' :: r' → l = l' ∧ r = r'
  | [], [], _, _, _, _, h => ⟨rfl, by simpa using h⟩
  | [], c :: l', _, _, _, h', h => by
    simp only [List.nil_append, List.cons_append, List.cons.injEq] at h
    exact absurd (h.1 ▸ List.mem_cons_self _ _) h'
  | c :: l, [], _, _, hl, _, h => by
    simp only [List.nil_append, List.cons_append, List.cons.injEq] at h
    exact absurd (h.1 ▸ List.mem_cons_self _ _) hl
  | c :: l, c' :: l', _, _, hl, hl', h => by
    simp only [List.cons_append, List.cons.injEq] at h
    obtain ⟨rfl, h⟩ := h
    obtain ⟨rfl, rfl⟩ := append_newline_inj (fun h => hl (List.mem_cons_of_mem _ h))
      (fun h => hl' (List.mem_cons_of_mem _ h)) h
    exact ⟨rfl, rfl⟩

/-- Lines without newlines, each followed by one, are determined by their text. -/
theorem flatten_newline_inj : ∀ {ls ls' : List (List Char)}, (∀ l ∈ ls, '\n' ∉ l) →
    (∀ l ∈ ls', '\n' ∉ l) →
    (ls.map (· ++ ['\n'])).flatten = (ls'.map (· ++ ['\n'])).flatten → ls = ls'
  | [], [], _, _, _ => rfl
  | [], l' :: _, _, _, h => by simp at h
  | l :: _, [], _, _, h => by simp at h
  | l :: ls, l' :: ls', hls, hls', h => by
    simp only [List.map_cons, List.flatten_cons, List.append_assoc, List.singleton_append] at h
    obtain ⟨rfl, hrest⟩ := append_newline_inj (hls l (List.mem_cons_self _ _))
      (hls' l' (List.mem_cons_self _ _)) h
    rw [flatten_newline_inj (fun l hl => hls l (List.mem_cons_of_mem _ hl))
      (fun l hl => hls' l (List.mem_cons_of_mem _ hl)) hrest]

/-- The indentation ends at the `-`: its width is determined. -/
theorem replicate_space_dash_inj : ∀ {n m : Nat} {x y : List Char},
    List.replicate n ' ' ++ '-' :: x = List.replicate m ' ' ++ '-' :: y → n = m ∧ x = y
  | 0, 0, _, _, h => ⟨rfl, by simpa using h⟩
  | 0, _ + 1, _, _, h => by simp [List.replicate_succ] at h
  | _ + 1, 0, _, _, h => by simp [List.replicate_succ] at h
  | n + 1, m + 1, _, _, h => by
    simp only [List.replicate_succ, List.cons_append, List.cons.injEq, true_and] at h
    obtain ⟨rfl, rfl⟩ := replicate_space_dash_inj h
    exact ⟨rfl, rfl⟩

section Injective

variable {debug : P → String} (hinj : Function.Injective debug)
  (hnl : ∀ k, '\n' ∉ (debug k).data)

include hinj in
/-- A line gives back its depth and its package. -/
theorem lineBody_injective : Function.Injective (lineBody debug) := by
  rintro ⟨d, k⟩ ⟨d', k'⟩ h
  obtain ⟨hd, hk⟩ := replicate_space_dash_inj h
  simp only [List.cons.injEq, true_and] at hk
  rw [hinj (String.ext hk)]
  congr
  omega

include hnl in
theorem newline_not_mem_lineBody (e : Nat × P) : '\n' ∉ lineBody debug e := by
  simp only [lineBody, List.mem_append, List.mem_replicate, List.mem_cons, not_or]
  exact ⟨fun h => absurd h.2 (by decide), by decide, by decide, hnl e.2⟩

include hinj hnl in
/-- `debug_print` writes one line per package node, in preorder, and its text determines the
    tree: two trees printed the same are equal, when `Debug` is injective and writes no
    newline. -/
theorem debugPrint_injective (t t' : Tree P) :
    (t.outline 0).map Prod.snd = t.nodes.map Prod.fst ∧
      (debugPrint debug t).data = ((t.outline 0).map fun e => lineBody debug e ++ ['\n']).flatten ∧
      (debugPrint debug t = debugPrint debug t' → t = t') := by
  refine ⟨outline_map_snd t 0, printRecursive_data debug t 0, fun h => ?_⟩
  have hdata := congrArg String.data h
  have hlines : ∀ u : Tree P, ((u.outline 0).map fun e => lineBody debug e ++ ['\n']) =
      ((u.outline 0).map (lineBody debug)).map (· ++ ['\n']) := fun u => by
    rw [List.map_map]; rfl
  rw [debugPrint, debugPrint, printRecursive_data, printRecursive_data, hlines, hlines] at hdata
  have hn : ∀ (u : Tree P), ∀ l ∈ (u.outline 0).map (lineBody debug), '\n' ∉ l := by
    simp only [List.mem_map]
    rintro u _ ⟨e, -, rfl⟩
    exact newline_not_mem_lineBody hnl e
  exact outline_injective t t' 0
    (List.map_injective_iff.mpr (lineBody_injective hinj) (flatten_newline_inj (hn t) (hn t') hdata))

end Injective

/-- A `Debug` for packages numbered by `ℕ`: `n` is printed as `n` bars. -/
def barsDebug (n : ℕ) : String := String.mk (List.replicate n '|')

/-- The tree `{1 ↦ {2}, 3}` printed with `barsDebug`. -/
theorem debugPrint_injective_bars :
    Function.Injective barsDebug ∧ (∀ k, '\n' ∉ (barsDebug k).data) ∧
      ((mk [(1, mk [(2, new)]), (3, new)]).outline 0).map Prod.snd =
          (mk [(1, mk [(2, new)]), (3, new)]).nodes.map Prod.fst ∧
        (debugPrint barsDebug (mk [(1, mk [(2, new)]), (3, new)])).data =
          (((mk [(1, mk [(2, new)]), (3, new)]).outline 0).map
            fun e => lineBody barsDebug e ++ ['\n']).flatten ∧
        (debugPrint barsDebug (mk [(1, mk [(2, new)]), (3, new)]) =
            debugPrint barsDebug (mk [(1, mk [(2, new)]), (3, new)]) →
          mk [(1, mk [(2, new)]), (3, new)] = (mk [(1, mk [(2, new)]), (3, new)] : Tree ℕ)) := by
  refine ⟨?hinj, ?hnl, debugPrint_injective ?hinj ?hnl _ _⟩
  · exact fun a b h => by simpa [barsDebug] using congrArg (fun s : String => s.data.length) h
  · exact fun k h => absurd (List.mem_replicate.mp h).2 (by decide)

end Butido.Package.Tree
