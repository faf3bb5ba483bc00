import Perhaps.Settings.EnvLine

/-! Reading a line takes at least one character off a text that has one, whatever the line says, so that reading
line after line comes to an end. -/
namespace Perhaps.Settings.EnvFile

theorem dropWhileNotLonger (p : Char → Bool) (s : List Char) : (s.dropWhile p).length ≤ s.length :=
  (List.dropWhile_sublist p).length_le

theorem afterLineShorter {s : List Char} (h : s ≠ []) : (afterLine s).length < s.length := by
  have drop := dropWhileNotLonger (· != '\n') s
  have pos := List.length_pos_iff.mpr h
  simp only [afterLine, List.length_drop]
  omega

theorem afterLineNotLonger (s : List Char) : (afterLine s).length ≤ s.length := by
  have drop := dropWhileNotLonger (· != '\n') s
  simp only [afterLine, List.length_drop]
  omega

theorem skipExportNotLonger (s : List Char) : (skipExport s).length ≤ s.length := by
  have drop := dropWhileNotLonger isInlineBlank (s.drop "export".toList.length)
  simp only [skipExport]
  split
  · simp only [List.length_drop] at drop
    omega
  · exact Nat.le_refl _

theorem skipCommentNotLonger (s : List Char) : (skipComment s).length ≤ s.length := by
  have drop := dropWhileNotLonger isInlineBlank s
  unfold skipComment
  split
  · rename_i rest h
    have line := dropWhileNotLonger (· != '\n') rest
    simp only [h, List.length_cons] at drop
    omega
  · exact Nat.le_refl _

theorem skipCommentShorter {s : List Char} (h : s.head? = some '#') :
    (skipComment s).length < s.length := by
  cases s with
  | nil => simp at h
  | cons c rest =>
    simp only [List.head?_cons, Option.some.injEq] at h
    subst h
    have line := dropWhileNotLonger (· != '\n') rest
    have stays : ('#' :: rest).dropWhile isInlineBlank = '#' :: rest := by
      rw [List.dropWhile_cons_of_neg (by decide)]
    simp only [skipComment, stays, List.length_cons]
    omega

theorem endLineNotLonger (said : Statement) (s : List Char) :
    (endLine said s).2.length ≤ (skipComment s).length := by
  have drop := dropWhileNotLonger isInlineBlank (skipComment s)
  have line := afterLineNotLonger (skipComment s)
  simp only [endLine]
  split
  · simp
  · rename_i rest h
    simp only [h, List.length_cons] at drop
    simpa using Nat.le_of_succ_le drop
  · exact line

theorem restOfMap {form : List Char × List Char → List Char × List Char} {read : Option (List Char × List Char)}
    {value rest : List Char} (h : read.map form = some (value, rest)) (keeps : ∀ read, (form read).2 = read.2) :
    ∃ body, read = some (body, rest) := by
  obtain ⟨⟨body, tail⟩, found, same⟩ := Option.map_eq_some_iff.mp h
  have stays := keeps (body, tail)
  rw [same] at stays
  obtain rfl : rest = tail := stays
  exact ⟨body, found⟩

theorem upToQuoteShorter {quote : Char} {s body rest : List Char}
    (h : upToQuote quote s = some (body, rest)) : rest.length < s.length := by
  fun_induction upToQuote quote s generalizing body rest with
  | case1 => simp at h
  | case2 c s ih =>
    obtain ⟨_, found⟩ := restOfMap h fun _ => rfl
    exact Nat.lt_succ_of_lt (Nat.lt_succ_of_lt (ih found))
  | case3 s =>
    cases h
    exact Nat.lt_succ_self _
  | case4 c s _ _ ih =>
    obtain ⟨_, found⟩ := restOfMap h fun _ => rfl
    exact Nat.lt_succ_of_lt (ih found)

theorem readValueNotLonger {s value rest : List Char} (h : readValue s = some (value, rest)) :
    rest.length ≤ s.length := by
  unfold readValue at h
  split at h
  · obtain ⟨_, found⟩ := restOfMap h fun _ => rfl
    exact Nat.le_succ_of_le (Nat.le_of_lt (upToQuoteShorter found))
  · obtain ⟨_, found⟩ := restOfMap h fun _ => rfl
    exact Nat.le_succ_of_le (Nat.le_of_lt (upToQuoteShorter found))
  · cases h
    exact dropWhileNotLonger _ _

theorem readNameShorter {s name rest : List Char} (h : readName s = some (name, rest)) :
    rest.length < s.length := by
  unfold readName at h
  split at h
  · rename_i s
    have drop := dropWhileNotLonger (· != '\'') s
    split at h
    · rename_i hr
      simp only [Option.some.injEq, Prod.mk.injEq] at h
      obtain ⟨_, rfl⟩ := h
      simp only [hr, List.length_cons] at drop ⊢
      omega
    · simp at h
  · split at h
    · simp at h
    · rename_i c name' taken
      simp only [Option.some.injEq, Prod.mk.injEq] at h
      obtain ⟨_, rfl⟩ := h
      have split := congrArg List.length (List.takeWhile_append_dropWhile (p := isNameChar) (l := s))
      simp only [taken, List.length_append, List.length_cons] at split
      omega

theorem readAssignedNotLonger (name : String) (s : List Char) : (readAssigned name s).2.length ≤ s.length := by
  unfold readAssigned
  split
  · exact afterLineNotLonger s
  · rename_i value rest hv
    have read := readValueNotLonger hv
    have ended := endLineNotLonger (.binding ⟨name, some value⟩) rest
    have comment := skipCommentNotLonger rest
    omega

theorem readRestNotLonger (name : String) (s : List Char) : (readRest name s).2.length ≤ s.length := by
  have drop := dropWhileNotLonger isInlineBlank s
  unfold readRest
  split
  · rename_i t h
    simp only [h, List.length_cons] at drop
    split
    · have ended := endLineNotLonger (.binding ⟨name, some []⟩) t
      have comment := skipCommentNotLonger t
      omega
    · have again := dropWhileNotLonger isInlineBlank t
      have read := readAssignedNotLonger name (t.dropWhile isInlineBlank)
      omega
  · have ended := endLineNotLonger (.binding ⟨name, none⟩) (s.dropWhile isInlineBlank)
    have comment := skipCommentNotLonger (s.dropWhile isInlineBlank)
    omega

theorem readNamedNotLonger (s : List Char) : (readNamed s).2.length ≤ s.length := by
  unfold readNamed
  split
  · exact Nat.le_trans (endLineNotLonger .comment s) (skipCommentNotLonger s)
  · split
    · exact afterLineNotLonger s
    · rename_i name rest h
      have read := readNameShorter h
      have follows := readRestNotLonger (String.ofList name) rest
      omega

theorem readNamedShorter {s : List Char} (h : s ≠ []) : (readNamed s).2.length < s.length := by
  unfold readNamed
  split
  · rename_i comment
    exact Nat.lt_of_le_of_lt (endLineNotLonger .comment s) (skipCommentShorter comment)
  · split
    · exact afterLineShorter h
    · rename_i name rest hn
      have read := readNameShorter hn
      have follows := readRestNotLonger (String.ofList name) rest
      omega

theorem readLineShorter {s : List Char} (h : s ≠ []) : (readLine s).2.length < s.length := by
  by_cases he : skipExport s = []
  · have pos := List.length_pos_iff.mpr h
    have read := readNamedNotLonger (skipExport s)
    simp only [he, List.length_nil] at read
    simp only [readLine, he]
    omega
  · have read := readNamedShorter he
    have skip := skipExportNotLonger s
    simp only [readLine]
    omega

end Perhaps.Settings.EnvFile
