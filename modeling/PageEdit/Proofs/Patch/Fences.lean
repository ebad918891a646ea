import PageEdit.Patch.Response
import PageEdit.Proofs.Text.Words

/-!
# Answers in code fences

A generator may put its answer in a code fence, with a language named in the line that opens it and blanks around all
of it. What is left when the fence has been taken off is the trimmed text, whatever stands in it: only the last three
backticks belong to the fence, and the line feed before them is one of the blanks that go.

* `unfence_codeBlock`: what is left of a text in a fence.
* `fences_are_transparent`: an answer in a fence is read as the answer.
-/

namespace PageEdit

/-! ## Taking the fence off -/

/-- A text in a code fence, with a language in the line that opens it. -/
def codeBlock (language text : String) : String := "\x60\x60\x60" ++ language ++ "\n" ++ text ++ "\n\x60\x60\x60"

theorem toList_codeBlock (language text : String) : (codeBlock language text).toList =
    fence ++ (language.toList ++ '\n' :: (text.toList ++ '\n' :: fence)) := by
  simp [codeBlock, fence]

theorem dropClosingFence_append (s : List Char) : dropClosingFence (s ++ fence) = s := by
  have hend : Text.trimEnd (s ++ fence) = s ++ fence := by
    have hlast : s ++ fence = s ++ ['\x60', '\x60'] ++ ['\x60'] := by simp [fence]
    rw [hlast, Text.trimEnd_concat (by decide)]
  have hsuffix : fence.isSuffixOf (s ++ fence) = true := List.isSuffixOf_iff_suffix.mpr (List.suffix_append s fence)
  have hlength : (s ++ fence).length - 3 = s.length := by simp [fence]
  rw [dropClosingFence, hend, if_pos hsuffix, hlength, List.take_left]

section

variable {lead trail : List Char} {language : String}

/-- What is left of a text in a fence is the trimmed text. -/
theorem unfence_codeBlock (hlead : ∀ c ∈ lead, Text.isBlank c = true) (htrail : ∀ c ∈ trail, Text.isBlank c = true)
    (hlanguage : '\n' ∉ language.toList) (text : String) :
    unfence (lead ++ (codeBlock language text).toList ++ trail) = Text.trimChars text.toList := by
  have htrim : Text.trimChars (lead ++ (codeBlock language text).toList ++ trail) =
      (codeBlock language text).toList := by
    rw [Text.trimChars_append_right htrail, Text.trimChars_append_left hlead, toList_codeBlock]
    refine Text.trimChars_eq_self ?_ ?_
    · intro c hc
      obtain rfl : '\x60' = c := by simpa [fence] using hc
      decide
    · intro c hc
      obtain rfl : '\x60' = c := by simpa [fence, List.getLast?_append, List.getLast?_cons] using hc
      decide
  have hprefix : fence.isPrefixOf (codeBlock language text).toList = true := by
    rw [toList_codeBlock, List.isPrefixOf_iff_prefix]
    exact List.prefix_append fence _
  have hrest : (codeBlock language text).toList.drop 3 = language.toList ++ '\n' :: (text.toList ++ '\n' :: fence) := by
    rw [toList_codeBlock]
    rfl
  have hblank : ∀ c ∈ ['\n'], Text.isBlank c = true := by
    rw [List.forall_mem_singleton]
    decide
  have hclosing : text.toList ++ '\n' :: fence = text.toList ++ ['\n'] ++ fence := by simp
  simp only [unfence, htrim, hprefix, if_true, hrest, Text.cutAt_append hlanguage, hclosing, dropClosingFence_append,
    Text.trimChars_append_right hblank]

end

/-- A text that does not begin with a fence is only trimmed. -/
theorem unfence_of_not_prefix {s : List Char} (h : ¬ fence <+: Text.trimChars s) : unfence s = Text.trimChars s := by
  rw [unfence, if_neg (mt List.isPrefixOf_iff_prefix.mp h)]

/-! ## Main statement -/

theorem Response.ofText_congr {s t : String} (h : unfence s.toList = unfence t.toList) :
    Response.ofText s = Response.ofText t := by
  simp only [Response.ofText, h]

/-- An answer that does not begin with a fence itself is read, and applied to every page, as if the fence and the
blanks around it were not there. -/
theorem fences_are_transparent (lead trail language text : String) (hlead : ∀ c ∈ lead.toList, Text.isBlank c = true)
    (htrail : ∀ c ∈ trail.toList, Text.isBlank c = true) (hlanguage : '\n' ∉ language.toList)
    (htext : ¬ fence <+: Text.trimChars text.toList) :
    Response.ofText (lead ++ codeBlock language text ++ trail) = Response.ofText text ∧
      ∀ html allOrNothing,
        respond html (lead ++ codeBlock language text ++ trail) allOrNothing = respond html text allOrNothing := by
  have hread : Response.ofText (lead ++ codeBlock language text ++ trail) = Response.ofText text := by
    refine Response.ofText_congr ?_
    rw [String.toList_append, String.toList_append, unfence_codeBlock hlead htrail hlanguage,
      unfence_of_not_prefix htext]
  exact ⟨hread, fun html allOrNothing => by rw [respond, respond, hread]⟩

/-- An answer that ends in a fence of its own loses nothing. -/
theorem fences_are_transparent_around_backticks :
    let text := " \x7b\"patches\": []\x7d\n\x60\x60\x60"
    ¬ fence <+: Text.trimChars text.toList ∧
      Response.ofText ("\n " ++ codeBlock "json" text ++ "\u00a0\n") = Response.ofText text := by
  intro text
  have htext : ¬ fence <+: Text.trimChars text.toList := by
    rw [← List.isPrefixOf_iff_prefix]
    decide
  refine ⟨htext, (fences_are_transparent "\n " "\u00a0\n" "json" text ?_ ?_ (by decide) htext).1⟩
  · exact List.all_eq_true.mp (by decide : "\n ".toList.all Text.isBlank = true)
  · exact List.all_eq_true.mp (by decide : "\u00a0\n".toList.all Text.isBlank = true)

end PageEdit
