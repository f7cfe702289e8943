import SentraLab.Runtime.AgentRuntime

/-!
# Responses read across calls

`read_response` wraps the child's stdout in a fresh `BufReader` on every call and, once the
`__END__` line is reached, puts back only `reader.into_inner()`: whatever the reader had
already taken from the pipe past that line goes with the reader. Here the pipe is one
sequence of reads shared by successive calls (`readResponses`), and each call leaves the
reads its loop never reached (`readsLeft`).

The scan of a read is a left fold over its bytes (`scanChunk_append`), so reads may be cut
anywhere inside a response. When each response and its terminator end at a read boundary,
the calls return the responses in order (`readResponses_aligned`). When a read carries bytes
past a terminator, those bytes are lost: the next call returns the response after them, or
times out (`end_line_drops_rest_of_read`).
-/

namespace SentraLab.Runtime

/-- The delimiter line as the child writes it. -/
def endLine : List Char := endMarker ++ ['\n']

/-- A response as the child writes it: newline-terminated lines, none of which trims to
`__END__`. -/
structure Response where
  lines : List (List Char)
  newline_not_mem : ∀ l ∈ lines, '\n' ∉ l
  trim_ne_endMarker : ∀ l ∈ lines, trim (l ++ ['\n']) ≠ endMarker

/-- The bytes of a response. -/
def Response.text (R : Response) : List Char := (R.lines.map (· ++ ['\n'])).flatten

/-- The reads of the pipe that `read_response`'s loop, from `output` and the partial `line`,
leaves for the next call: those after the read in which the `__END__` line ends (the rest of
that read goes with the reader), those after a read error, or EOF and what follows it. -/
def readsLeft : List ReadEvent → List Char → List Char → List ReadEvent
  | [], _, _ => []
  | .error _ :: rest, _, _ => rest
  | .eof :: rest, _, _ => .eof :: rest
  | .data bytes :: rest, output, line =>
    match scanChunk bytes output line with
    | .inl _ => rest
    | .inr (output, line) => readsLeft rest output line

namespace AgentRuntime

/-- `read_response` on a runtime whose child's stdout pipe gives `pipe`: the call, and the
reads it leaves. A call that finds no child or no stdout handle reads nothing. -/
def readResponseOn (r : AgentRuntime) (pipe : List ReadEvent) :
    (AgentRuntime × Except EngineError String) × List ReadEvent :=
  (r.readResponse pipe,
    match r.process with
    | some c => if c.stdout then readsLeft pipe [] [] else pipe
    | none => pipe)

/-- The results of `n` successive `read_response` calls on one pipe. -/
def readResponses (r : AgentRuntime) : Nat → List ReadEvent → List (Except EngineError String)
  | 0, _ => []
  | n + 1, pipe =>
    let ((r', result), pipe') := r.readResponseOn pipe
    result :: readResponses r' n pipe'

end AgentRuntime

/-! ## The scan of one read -/

/-- Scanning two runs of bytes is scanning the first, then the second from where it left. -/
theorem scanChunk_append (s t output line : List Char) :
    scanChunk (s ++ t) output line =
      (scanChunk s output line).elim .inl fun p => scanChunk t p.1 p.2 := by
  induction s generalizing output line with
  | nil => rfl
  | cons c s ih =>
    simp only [List.cons_append, scanChunk]
    split_ifs <;> simp [ih]

/-- Bytes with no newline only extend the partial line. -/
theorem scanChunk_of_newline_not_mem {s : List Char} (h : '\n' ∉ s) (output line : List Char) :
    scanChunk s output line = .inr (output, line ++ s) := by
  induction s generalizing line with
  | nil => simp [scanChunk]
  | cons c s ih =>
    have hc : c ≠ '\n' := fun hc => h (hc ▸ List.mem_cons_self c s)
    simp [scanChunk, hc, ih fun h' => h (List.mem_cons_of_mem c h')]

/-- A line that does not trim to `__END__` goes to the output. -/
theorem scanChunk_line {l : List Char} (hn : '\n' ∉ l) (he : trim (l ++ ['\n']) ≠ endMarker)
    (t output : List Char) :
    scanChunk (l ++ '\n' :: t) output [] = scanChunk t (output ++ l ++ ['\n']) [] := by
  simp [scanChunk_append, scanChunk_of_newline_not_mem hn, scanChunk, he]

/-- The delimiter line ends the scan, whatever follows it in the read. -/
theorem scanChunk_endLine (t output : List Char) :
    scanChunk (endLine ++ t) output [] = .inl output := by
  have hn : '\n' ∉ endMarker := by decide
  have he : trim (endMarker ++ ['\n']) = endMarker := by decide
  rw [endLine, List.append_assoc, scanChunk_append, scanChunk_of_newline_not_mem hn]
  simp [scanChunk, he]

/-- A response's lines all go to the output. -/
theorem scanChunk_text (R : Response) (t output : List Char) :
    scanChunk (R.text ++ t) output [] = scanChunk t (output ++ R.text) [] := by
  obtain ⟨lines, hn, he⟩ := R
  simp only [Response.text]
  induction lines generalizing output with
  | nil => simp
  | cons l ls ih =>
    simp only [List.mem_cons, forall_eq_or_imp] at hn he
    simp only [List.map_cons, List.flatten_cons, List.append_assoc, List.singleton_append,
      List.cons_append, List.nil_append, scanChunk_line hn.1 he.1, ih _ hn.2 he.2]

/-- A response and its terminator end the scan, with the response as the output. -/
theorem scanChunk_text_endLine (R : Response) (t output : List Char) :
    scanChunk (R.text ++ endLine ++ t) output [] = .inl (output ++ R.text) := by
  rw [List.append_assoc, scanChunk_text, scanChunk_endLine]

/-- A proper prefix of a line and what follows it is a prefix of the line, or takes the
line's newline and a prefix of what follows. -/
theorem prefix_of_line_cases {l p q T : List Char} (h : p ++ q = l ++ '\n' :: T) :
    (∃ a, l = p ++ a) ∨ ∃ c, p = l ++ '\n' :: c ∧ T = c ++ q := by
  rcases List.append_eq_append_iff.1 h with ⟨a, hl, -⟩ | ⟨_ | ⟨x, c⟩, hp, hc⟩
  · exact .inl ⟨a, hl⟩
  · exact .inl ⟨[], by simp [hp]⟩
  · simp only [List.cons_append, List.cons.injEq] at hc
    exact .inr ⟨c, hc.1 ▸ hp, hc.2⟩

/-- Before the last byte of a response's terminator the scan has not ended: every proper
prefix of `R.text ++ endLine` leaves the loop reading. -/
theorem scanChunk_prefix (R : Response) {p q : List Char} (h : p ++ q = R.text ++ endLine)
    (hq : q ≠ []) (output : List Char) : ∃ o l, scanChunk p output [] = .inr (o, l) := by
  obtain ⟨lines, hn, he⟩ := R
  simp only [Response.text] at h
  induction lines generalizing p output with
  | nil =>
    rcases prefix_of_line_cases (l := endMarker) (T := []) (by simpa [endLine] using h) with
      ⟨a, ha⟩ | ⟨c, -, hc⟩
    · have hp : '\n' ∉ p := fun hp => absurd (ha ▸ List.mem_append_left a hp) (by decide)
      exact ⟨_, _, scanChunk_of_newline_not_mem hp output []⟩
    · exact absurd (List.append_eq_nil.1 hc.symm).2 hq
  | cons l ls ih =>
    simp only [List.mem_cons, forall_eq_or_imp] at hn he
    rcases prefix_of_line_cases (l := l) (by simpa using h) with ⟨a, rfl⟩ | ⟨c, rfl, hc⟩
    · have hp : '\n' ∉ p := fun hp => hn.1 (List.mem_append_left a hp)
      exact ⟨_, _, scanChunk_of_newline_not_mem hp _ _⟩
    · rw [scanChunk_line hn.1 he.1]
      exact ih _ hn.2 he.2 hc.symm

/-! ## The loop over a call's reads -/

/-- A read that ends with a response's terminator, and more bytes past it: the call returns
the response and leaves the reads after this one. -/
theorem readLoop_text_endLine (R : Response) (t : List Char) (rest : List ReadEvent) :
    readLoop (.data (R.text ++ endLine ++ t) :: rest) [] [] = .done R.text ∧
      readsLeft (.data (R.text ++ endLine ++ t) :: rest) [] [] = rest := by
  simp only [readLoop, readsLeft, scanChunk_text_endLine]
  simp

/-- Two reads whose first leaves the loop reading are one read of both. -/
theorem readLoop_merge {c d output line o l : List Char} (rest : List ReadEvent)
    (h : scanChunk c output line = .inr (o, l)) :
    readLoop (.data c :: .data d :: rest) output line =
        readLoop (.data (c ++ d) :: rest) output line ∧
      readsLeft (.data c :: .data d :: rest) output line =
        readsLeft (.data (c ++ d) :: rest) output line := by
  simp [readLoop, readsLeft, scanChunk_append, h]

/-- Reads that together carry exactly a response and its terminator, however the bytes are
cut: the call returns the response and leaves the reads after them. -/
theorem readLoop_group (R : Response) (rest : List ReadEvent) (cs : List (List Char)) :
    ∀ c, (∀ d ∈ cs, d ≠ []) → c ++ cs.flatten = R.text ++ endLine →
      readLoop ((c :: cs).map .data ++ rest) [] [] = .done R.text ∧
        readsLeft ((c :: cs).map .data ++ rest) [] [] = rest := by
  induction cs with
  | nil =>
    intro c _ h
    simpa [← h] using readLoop_text_endLine R [] rest
  | cons d ds ih =>
    intro c hne h
    simp only [List.mem_cons, forall_eq_or_imp] at hne
    obtain ⟨o, l, hs⟩ := scanChunk_prefix R (q := d ++ ds.flatten) (by simpa using h)
      (by simp [hne.1]) []
    have hm := readLoop_merge (d := d) (ds.map .data ++ rest) hs
    simp only [List.map_cons, List.cons_append] at hm ih ⊢
    rw [hm.1, hm.2]
    exact ih (c ++ d) hne.2 (by simpa using h)

namespace AgentRuntime

/-- A call on a runtime holding its child's stdout, whose loop ends normally. -/
theorem readResponses_succ_of_done {r : AgentRuntime} {pid : Nat}
    (hr : r.process = some ⟨pid, true⟩) {pipe : List ReadEvent} {output : List Char}
    (h : readLoop pipe [] [] = .done output) (n : Nat) :
    r.readResponses (n + 1) pipe =
      .ok (String.mk output) :: r.readResponses n (readsLeft pipe [] []) := by
  simp [readResponses, readResponseOn, readResponse, hr, h]

/-- When each response and its terminator end at a read boundary, however the bytes of each
are cut into reads, the successive calls return the responses in order, and leave the pipe
past them. -/
theorem readResponses_aligned {r : AgentRuntime} {pid : Nat}
    (hr : r.process = some ⟨pid, true⟩) {Rs : List Response}
    {groups : List (List (List Char))}
    (hg : List.Forall₂ (fun R g => (∀ c ∈ g, c ≠ []) ∧ g.flatten = R.text ++ endLine)
      Rs groups)
    (rest : List ReadEvent) :
    r.readResponses Rs.length ((groups.map fun g => g.map .data).flatten ++ rest) =
      Rs.map fun R => .ok (String.mk R.text) := by
  induction hg with
  | nil => rfl
  | @cons R g Rs gs hRg _ ih =>
    obtain ⟨hne, hflat⟩ := hRg
    rcases g with _ | ⟨c, cs⟩
    · simp [endLine] at hflat
    simp only [List.mem_cons, forall_eq_or_imp] at hne
    obtain ⟨hdone, hleft⟩ :=
      readLoop_group R ((gs.map fun g => g.map .data).flatten ++ rest) cs c hne.2 hflat
    simp only [List.length_cons, List.map_cons, List.flatten_cons, List.append_assoc]
      at hdone hleft ⊢
    rw [readResponses_succ_of_done hr hdone, hleft, ih]

/-- A fresh runtime, and the responses `a` and `b` written with the reads cut inside the
first terminator. -/
theorem readResponses_aligned_cut_terminator :
    let r : AgentRuntime := ⟨.default, some ⟨1, true⟩, some 1, some ⟨1, .python⟩, 2⟩
    let Rs : List Response :=
      [⟨[['a']], by decide, by decide⟩, ⟨[['b']], by decide, by decide⟩]
    let groups : List (List (List Char)) :=
      [["a\n__EN".toList, "D__\n".toList], ["b\n__END__\n".toList]]
    new .default .ok = .ok r ∧
      List.Forall₂ (fun R g => (∀ c ∈ g, c ≠ []) ∧ g.flatten = R.text ++ endLine)
        Rs groups ∧
      r.readResponses 2 [.data "a\n__EN".toList, .data "D__\n".toList,
        .data "b\n__END__\n".toList] = [.ok "a\n", .ok "b\n"] := by
  intro r Rs groups
  have hg : List.Forall₂ (fun R g => (∀ c ∈ g, c ≠ []) ∧ g.flatten = R.text ++ endLine)
      Rs groups := .cons ⟨by decide, rfl⟩ (.cons ⟨by decide, rfl⟩ .nil)
  exact ⟨rfl, hg, readResponses_aligned (r := r) rfl hg []⟩

/-- For every runtime holding its child's stdout and every three responses: when one read
carries the first response, its terminator, the second response and its terminator, the
first call returns the first response and the second response is lost with the reader. The
second call then returns the third response if another read carries it, and times out if
none comes. -/
theorem end_line_drops_rest_of_read {r : AgentRuntime} {pid : Nat}
    (hr : r.process = some ⟨pid, true⟩) (R₁ R₂ R₃ : Response) :
    r.readResponses 2
        [.data (R₁.text ++ endLine ++ (R₂.text ++ endLine)), .data (R₃.text ++ endLine)] =
      [.ok (String.mk R₁.text), .ok (String.mk R₃.text)] ∧
    r.readResponses 2 [.data (R₁.text ++ endLine ++ (R₂.text ++ endLine))] =
      [.ok (String.mk R₁.text), .error .executionTimeout] := by
  have h₁ := readLoop_text_endLine R₁ (R₂.text ++ endLine)
  have h₃ := readLoop_text_endLine R₃ [] []
  rw [List.append_nil] at h₃
  refine ⟨?_, ?_⟩
  · rw [readResponses_succ_of_done hr (h₁ _).1, (h₁ _).2,
      readResponses_succ_of_done hr h₃.1]
    rfl
  · rw [readResponses_succ_of_done hr (h₁ _).1, (h₁ _).2]
    simp [readResponses, readResponseOn, readResponse, readLoop, hr]

/-- A fresh runtime and the one-line responses `a`, `b` and `c`: the second call returns
`c` where the second response was `b`. -/
theorem end_line_drops_rest_of_read_one_line_each :
    let r : AgentRuntime := ⟨.default, some ⟨1, true⟩, some 1, some ⟨1, .python⟩, 2⟩
    new .default .ok = .ok r ∧ r.process = some ⟨1, true⟩ ∧
      r.readResponses 2 [.data "a\n__END__\nb\n__END__\n".toList, .data "c\n__END__\n".toList] =
        [.ok "a\n", .ok "c\n"] ∧
      r.readResponses 2 [.data "a\n__END__\nb\n__END__\n".toList] =
        [.ok "a\n", .error .executionTimeout] := by
  intro r
  exact ⟨rfl, rfl, end_line_drops_rest_of_read (r := r) rfl ⟨[['a']], by decide, by decide⟩
    ⟨[['b']], by decide, by decide⟩ ⟨[['c']], by decide, by decide⟩⟩

end AgentRuntime

end SentraLab.Runtime
