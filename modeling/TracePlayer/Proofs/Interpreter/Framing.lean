/-
**Questions are told apart by their newlines.**

A question is one line, whatever the program and its input are: what looks like a line break in them
is escaped.  The lines of many questions, one after the other, therefore fall into as many pieces,
and every piece stands for its question.

Main definitions:

* `Request.stream`: the lines for some questions, one after the other;
* `Request.Framed`: **questions that are told apart**.

Main results:

* `Lines.terminated_join`: texts without line breaks are found again between their newlines;
* `Request.parse?_compress`: **the text of a question stands for it**;
* `Request.framed_stream`: **every sequence of questions is told apart**.
-/
import TracePlayer.Interpreter.Message
import TracePlayer.Proofs.Json.ReadBack
import TracePlayer.Proofs.Text.Breaks

set_option autoImplicit false

namespace TracePlayer

/-! ### Texts between newlines -/

section Texts

variable {pieces : List String}

theorem splitAtNewlines_join (h : ∀ piece ∈ pieces, '\n' ∉ piece.toList) :
    splitAtNewlines (String.join (pieces.map (· ++ "\n"))).toList =
      pieces.map String.toList ++ [[]] := by
  have hpieces := splitAtNewlines_join_append h List.not_mem_nil
  rwa [List.append_nil] at hpieces

/-- **Texts without line breaks are found again between their newlines.** -/
theorem Lines.terminated_join (hnewline : ∀ piece ∈ pieces, '\n' ∉ piece.toList)
    (hreturn : ∀ piece ∈ pieces, '\r' ∉ piece.toList) :
    Lines.terminated (String.join (pieces.map (· ++ "\n"))) = pieces := by
  have hlines : ∀ line ∈ pieces.map (·, LineEnd.newline), IsLine line.1 := by
    rintro _ hline
    obtain ⟨piece, hpiece, rfl⟩ := List.mem_map.1 hline
    exact ⟨hnewline piece hpiece, fun hlast => hreturn piece hpiece (List.mem_of_getLast? hlast)⟩
  have hterminated := terminated_written hlines
  rw [written, List.map_map, List.map_map] at hterminated
  exact hterminated.trans pieces.map_id

end Texts

/-! ### One question -/

namespace Request

open Json

variable (request : Request)

/-- A question has no numbers, and nothing in it lies deep. -/
theorem legible_encode {depth : Nat} : Legible (depth + 2) request.encode := by
  cases request with
  | init => exact .obj (by decide) (by simp [Legible.str])
  | run request =>
      have hlines : Legible (depth + 1) (.arr (request.stdinLines.map .str)) :=
        .arr (by simp [Legible.str])
      exact .obj (by simp) (by simp [Legible.str, hlines])

theorem texts?_map_str (texts : List String) :
    RunRequest.texts? (.arr (texts.map .str)) = some texts := by
  rw [RunRequest.texts?, List.mapM_map]
  exact (List.mapM_pure (m := Option) (f := id)).trans (congrArg some texts.map_id)

/-- The text of an object stands for the question that its entries stand for. -/
theorem parse?_compress_obj {fields : List (String × Json)}
    (h : Legible maxDepth (.obj fields)) {blanks : String}
    (hblanks : blanks.toList.all Raw.isBlank) :
    parse? (compress (.obj fields) ++ blanks) = ofEntries? fields := by
  obtain ⟨raws, hread, hpairs⟩ := h.read?_compress hblanks
  rw [parse?, hread, Option.bind_some, Message.ofRaw?]
  exact congrArg (Option.bind · ofEntries?) hpairs

/-- **The text of a question stands for it**, also with blanks after it. -/
theorem parse?_compress (blanks : String) (hblanks : blanks.toList.all Raw.isBlank) :
    parse? (request.encode.compress ++ blanks) = some request := by
  cases request with
  | init => exact parse?_compress_obj (legible_encode .init) hblanks
  | run request =>
      refine (parse?_compress_obj (legible_encode (.run request)) hblanks).trans ?_
      have hsource : (Json.str request.source).toText.toOption = some request.source := rfl
      simp [ofEntries?, Message.field?, RunRequest.ofEntries?, RunRequest.ofValues?, hsource,
        texts?_map_str]

theorem notMem_compress {c : Char} (hc : isPrintable c = false) :
    c ∉ request.encode.compress.toList := by
  intro hmem
  have hlegible : Legible 2 request.encode := request.legible_encode
  exact absurd (List.all_eq_true.1 hlegible.all_isPrintable c hmem) (by simp [hc])

/-! ### Many questions -/

/-- The lines for some questions, one after the other. -/
def stream (requests : List Request) : String := String.join (requests.map line)

/-- **Questions that are told apart** in the lines for them. -/
structure Framed (requests : List Request) : Prop where
  /-- The line for a question ends with a newline and has no other. -/
  newline : ∀ request ∈ requests,
    request.line.toList.getLast? = some '\n' ∧ request.line.toList.count '\n' = 1
  /-- The line for a question stands for it. -/
  line : ∀ request ∈ requests, parse? request.line = some request
  /-- Between the newlines of all lines there are as many pieces as there are questions, and nothing
  is left after the last newline. -/
  split : ∃ pieces : List String, pieces.length = requests.length ∧
    (splitAtNewlines (stream requests).toList).map String.ofList = pieces ++ [""] ∧
    Lines.terminated (stream requests) = pieces ∧
    pieces.map parse? = requests.map some

theorem line_eq : request.line.toList = request.encode.compress.toList ++ ['\n'] :=
  String.toList_append

theorem stream_eq (requests : List Request) :
    stream requests =
      String.join ((requests.map fun request => request.encode.compress).map (· ++ "\n")) := by
  rw [stream, List.map_map]
  rfl

/-- **Every sequence of questions is told apart**, whatever is in the programs and in the lines they
read. -/
theorem framed_stream (requests : List Request) : Framed requests where
  newline request _ := by
    rw [line_eq, List.getLast?_concat, List.count_append,
      List.count_eq_zero_of_not_mem (request.notMem_compress rfl)]
    exact ⟨rfl, rfl⟩
  line request _ := parse?_compress request "\n" rfl
  split := by
    have hclean {c : Char} (hc : isPrintable c = false) :
        ∀ piece ∈ requests.map fun request => request.encode.compress, c ∉ piece.toList := by
      rintro _ hpiece
      obtain ⟨request, -, rfl⟩ := List.mem_map.1 hpiece
      exact request.notMem_compress hc
    refine ⟨requests.map fun request => request.encode.compress, List.length_map .., ?_, ?_, ?_⟩
    · have hid : String.ofList ∘ String.toList = id := funext fun _ => String.ofList_toList
      rw [stream_eq, splitAtNewlines_join (hclean rfl), List.map_append, List.map_map, hid,
        List.map_id]
      rfl
    · rw [stream_eq, Lines.terminated_join (hclean rfl) (hclean rfl)]
    · rw [List.map_map]
      refine List.map_congr_left fun request _ => ?_
      have hparse := request.parse?_compress "" rfl
      rwa [String.append_empty] at hparse

/-- What would break a line, or end a string, comes as an escape. -/
example : (run ⟨"\"\n", ["\r"]⟩).line =
    "\x7b\"type\":\"run\",\"sourceCode\":\"\\\"\\n\",\"stdinLines\":[\"\\r\"]\x7d\n" := by
  decide +kernel

end Request

end TracePlayer
