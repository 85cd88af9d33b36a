import FractalArchive.Disk.DatabaseName
import FractalArchive.Proofs.Text.Utf8

/-!
# Names of files

The path of a URI is a row of octets, and its file is named by characters.  A path that is text has
this text for its name (`fileName_octetsOf`), so a URI and a plain name can lead to one file.  A
path that is no text has a name as well, and paths of different octets have different names
(`fileName_unescape_inj`).

Both are shown part by part.  Between the slashes a part keeps its octets (`Path.toOctets_ofOctets`)
and gets no slash (`Path.slash_mem_of_mem_ofOctets`), so the name falls into parts where the octets
did (`splitOn_fileName`).
-/

namespace FractalArchive

open DatabaseName (ascii)

variable {octets octets' : Octets}

/-- What stands between separators is of the whole, and is no separator. -/
theorem of_mem_splitOn {α : Type} [BEq α] [LawfulBEq α] {separator : α} {whole : List α} :
    ∀ piece ∈ whole.splitOn separator, ∀ a ∈ piece, a ∈ whole ∧ a ≠ separator := by
  induction whole with
  | nil =>
      intro piece h a mem
      obtain rfl := List.mem_singleton.mp h
      cases mem
  | cons head rest ih =>
      have tail : ∀ piece ∈ rest.splitOn separator, ∀ a ∈ piece,
          a ∈ head :: rest ∧ a ≠ separator := fun piece h a mem =>
        (ih piece h a mem).imp_left (List.mem_cons_of_mem head)
      intro piece h a mem
      rw [List.splitOn_cons_eq_if_modifyHead] at h
      split at h
      · rcases List.mem_cons.mp h with rfl | later
        · cases mem
        · exact tail piece later a mem
      next other =>
        -- The head goes before the first piece of the rest.
        obtain ⟨first, more, pieces⟩ :=
          List.exists_cons_of_ne_nil (List.splitOn_ne_nil separator rest)
        rw [pieces] at h tail
        rcases List.mem_cons.mp h with rfl | later
        · rcases List.mem_cons.mp mem with rfl | mem
          · exact ⟨List.mem_cons_self, fun e => other (beq_iff_eq.mpr e)⟩
          · exact tail first List.mem_cons_self a mem
        · exact tail piece (List.mem_cons_of_mem first later) a mem

/-! ### Parts -/

namespace Path

/-- A character stands for the octet of its code. -/
theorem toNat_code (octet : UInt8) : (Char.ofNat octet.toNat).toNat = octet.toNat := by
  have valid : octet.toNat.isValidChar := .inl (by have := octet.toNat_lt; omega)
  rw [Char.ofNat, dif_pos valid]
  rfl

/-- A part that is text is the characters of this text. -/
theorem ofOctets_encode (cs : List Char) : ofOctets (Utf8.encode cs) = cs := by
  unfold ofOctets
  simp only [Utf8.decodeLossy_encode, if_true]

/-- **A part keeps its octets**, if none of them is null. -/
theorem toOctets_ofOctets (nullFree : 0 ∉ octets) : toOctets (ofOctets octets) = octets := by
  unfold ofOctets
  simp only
  split
  next text =>
    unfold toOctets
    split
    next codes null =>
      rw [null] at text
      exact absurd (text ▸ List.mem_append_left _ (List.mem_singleton_self 0)) nullFree
    · exact text
  next noText =>
    unfold toOctets
    simp only [List.map_map]
    refine (List.map_congr_left fun octet _ => ?_).trans (List.map_id octets)
    show UInt8.ofNat (Char.ofNat octet.toNat).toNat = octet
    rw [toNat_code, UInt8.ofNat_toNat]

/-- A slash in the characters of a part is one of its octets. -/
theorem slash_mem_of_mem_ofOctets (h : '/' ∈ ofOctets octets) : ascii '/' ∈ octets := by
  unfold ofOctets at h
  simp only at h
  split at h
  next text =>
    rw [← text]
    exact List.mem_flatMap.mpr ⟨'/', h, by decide⟩
  next noText =>
    rcases List.mem_cons.mp h with null | code
    · cases null
    obtain ⟨octet, mem, e⟩ := List.mem_map.mp code
    have same : ascii '/' = octet := by
      rw [ascii, ← e, toNat_code, UInt8.ofNat_toNat]
    exact same ▸ mem

end Path

/-! ### Names -/

namespace DatabaseName

/-- The name of a file falls into parts where the octets of its path do. -/
theorem splitOn_fileName (octets : Octets) : (fileName octets).toList.splitOn '/' =
    (octets.splitOn (ascii '/')).map Path.ofOctets := by
  unfold fileName
  rw [String.toList_ofList]
  refine List.splitOn_intercalate '/' (fun part h slash => ?_) ?_
  · obtain ⟨piece, mem, rfl⟩ := List.mem_map.mp h
    exact (of_mem_splitOn piece mem _ (Path.slash_mem_of_mem_ofOctets slash)).2 rfl
  · exact fun none => List.splitOn_ne_nil _ _ (List.map_eq_nil_iff.mp none)

/-- Paths of different octets have different names. -/
theorem fileName_injective (nullFree : 0 ∉ octets) (nullFree' : 0 ∉ octets')
    (same : fileName octets = fileName octets') : octets = octets' := by
  have restored : ∀ {octets : Octets}, 0 ∉ octets →
      ((fileName octets).toList.splitOn '/').map Path.toOctets = octets.splitOn (ascii '/') := by
    intro octets nullFree
    rw [splitOn_fileName, List.map_map]
    refine (List.map_congr_left fun piece h => ?_).trans (List.map_id _)
    exact Path.toOctets_ofOctets fun null => nullFree (of_mem_splitOn piece h 0 null).1
  calc octets = [ascii '/'].intercalate (octets.splitOn (ascii '/')) :=
        (List.intercalate_splitOn _).symm
    _ = [ascii '/'].intercalate (octets'.splitOn (ascii '/')) := by
        rw [← restored nullFree, same, restored nullFree']
    _ = octets' := List.intercalate_splitOn _

/-- An escape stands for no null octet. -/
theorem null_not_mem_unescape (nullFree : 0 ∉ octets) : 0 ∉ unescape octets := by
  fun_induction unescape octets with
  | case1 | case2 => exact List.not_mem_nil
  | case3 b c rest octet nonzero value ih =>
      have later : 0 ∉ rest := fun null => nullFree (.tail _ (.tail _ (.tail _ null)))
      exact List.not_mem_cons_of_ne_of_not_mem (fun e => nonzero e.symm) (ih later)
  | case4 | case5 | case6 =>
      next ih =>
        exact List.not_mem_cons_of_ne_of_not_mem (List.ne_of_not_mem_cons nullFree)
          (ih (List.not_mem_of_not_mem_cons nullFree))

/-- **Paths of URIs** have the same name exactly if they are of the same octets, once the escapes
are resolved. -/
theorem fileName_unescape_inj (nullFree : 0 ∉ octets) (nullFree' : 0 ∉ octets') :
    fileName (unescape octets) = fileName (unescape octets') ↔ unescape octets = unescape octets' :=
  ⟨fileName_injective (null_not_mem_unescape nullFree) (null_not_mem_unescape nullFree'),
    congrArg fileName⟩

/-- Texts joined by slashes have the octets of the texts, joined by slashes. -/
theorem encode_intercalate (parts : List (List Char)) : Utf8.encode (['/'].intercalate parts) =
    [ascii '/'].intercalate (parts.map Utf8.encode) := by
  induction parts with
  | nil => rfl
  | cons part rest ih =>
      cases rest with
      | nil => simp
      | cons next rest =>
          simp only [List.map_cons] at ih ⊢
          rw [List.intercalate_cons_cons, List.intercalate_cons_cons, Utf8.encode_append,
            Utf8.encode_append, ih]
          rfl

/-- The octets of a text fall into parts where the text does. -/
theorem splitOn_encode (cs : List Char) : (Utf8.encode cs).splitOn (ascii '/') =
    (cs.splitOn '/').map Utf8.encode := by
  have whole := encode_intercalate (cs.splitOn '/')
  rw [List.intercalate_splitOn] at whole
  rw [whole]
  refine List.splitOn_intercalate _ (fun piece h slash => ?_) ?_
  · obtain ⟨part, mem, rfl⟩ := List.mem_map.mp h
    obtain ⟨c, inPart, octet⟩ := List.mem_flatMap.mp slash
    have code : (ascii '/').toNat = 47 := rfl
    rcases Utf8.toNat_of_mem_encodeChar octet with same | high
    · exact (of_mem_splitOn part mem c inPart).2 (Char.toNat_inj.mp same.symm)
    · omega
  · exact fun none => List.splitOn_ne_nil _ _ (List.map_eq_nil_iff.mp none)

/-- **A path that is text** has this text for its name. -/
theorem fileName_octetsOf (name : String) : fileName (octetsOf name) = name := by
  unfold fileName octetsOf
  rw [splitOn_encode, List.map_map]
  have parts : Path.ofOctets ∘ Utf8.encode = id := funext Path.ofOctets_encode
  rw [parts, List.map_id, List.intercalate_splitOn]
  exact String.ofList_toList

end DatabaseName

end FractalArchive
