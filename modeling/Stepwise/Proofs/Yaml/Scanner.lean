import Stepwise.Yaml.Scanner

/-!
# Texts in YAML are scanned to their end

The scanner counts down a number that only bounds its recursion. Each symbol takes at least one
character (`Scanner.length_lt_of_take`), and what stands between symbols only makes a text shorter,
so the number that `Scanner.scan` starts from is never used up: each larger one gives the same
symbols, or none as well (`Scanner.scan_eq_add`).
-/

namespace Stepwise.Yaml

/-! ### Places -/

theorem Cursor.length_skip_le (cursor : Cursor) :
    cursor.skip.rest.length ≤ cursor.rest.length := by
  unfold skip
  split
  next found => exact Nat.le_of_lt (length_lt_of_next? found)
  next => exact Nat.le_refl _

/-- The next character is the one that stands there, but line breaks may be read as others. -/
theorem Cursor.exists_next? {cursor : Cursor} {c : Char} {rest : List Char}
    (here : cursor.rest = c :: rest) :
    ∃ c' next, cursor.next? = some (c', next) ∧
      (isBreak c' = true ∨ (c' = c ∧ next.rest = rest)) := by
  unfold next?
  split
  next empty =>
    rw [here] at empty
    cases empty
  next => exact ⟨_, _, rfl, .inl rfl⟩
  next first after _ same =>
    rw [here] at same
    cases same
    split
    next broken =>
      refine ⟨_, _, rfl, .inl ?_⟩
      split
      · exact broken
      · rfl
    next => exact ⟨_, _, rfl, .inr ⟨rfl, rfl⟩⟩

theorem Cursor.length_skip_lt {cursor : Cursor} {c : Char} {rest : List Char}
    (here : cursor.rest = c :: rest) : cursor.skip.rest.length < cursor.rest.length := by
  obtain ⟨_, next, found, -⟩ := exists_next? here
  rw [skip, found]
  exact length_lt_of_next? found

/-! ### Texts that span lines -/

theorem length_le_of_plainFrom {least : Nat} {inFlow : Bool} {gap after : Gap}
    {done text : List Char} {cursor stop : Cursor}
    (h : plainFrom least inFlow gap done cursor = some (text, after, stop)) :
    stop.rest.length ≤ cursor.rest.length := by
  fun_induction plainFrom least inFlow gap done cursor <;> grind

theorem endsPlain_of_isBreak {inFlow : Bool} {c : Char} {rest : List Char}
    (broken : isBreak c = true) : endsPlain inFlow c rest = false := by
  simp only [isBreak, Bool.or_eq_true, beq_iff_eq] at broken
  rcases broken with (((rfl | rfl) | rfl) | rfl) | rfl <;> simp [endsPlain, isFlowIndicator]

/-- A scalar without quotes takes its first character, unless that would end it. -/
theorem length_lt_of_plainFrom {least : Nat} {inFlow : Bool} {after : Gap} {text rest : List Char}
    {cursor stop : Cursor} {c : Char} (here : cursor.rest = c :: rest)
    (goesOn : endsPlain inFlow c rest = false)
    (h : plainFrom least inFlow .empty [] cursor = some (text, after, stop)) :
    stop.rest.length < cursor.rest.length := by
  obtain ⟨c', next, found, same⟩ := Cursor.exists_next? here
  have goesOn : endsPlain inFlow c' next.rest = false := by
    rcases same with broken | ⟨rfl, rfl⟩
    · exact endsPlain_of_isBreak broken
    · exact goesOn
  have less := Cursor.length_lt_of_next? found
  unfold plainFrom at h
  split at h
  next none =>
    rw [found] at none
    cases none
  next c'' next' isNext =>
    rw [found] at isNext
    cases isNext
    simp only [Gap.isEmpty, Gap.empty, goesOn] at h
    grind [→ length_le_of_plainFrom]

theorem length_le_of_quotedFrom {quote : Char} {gap : Gap} {done text : List Char} {skipped : Nat}
    {cursor stop : Cursor} (h : quotedFrom quote gap done skipped cursor = some (text, stop)) :
    stop.rest.length ≤ cursor.rest.length := by
  fun_induction quotedFrom quote gap done skipped cursor <;> grind

namespace Scanner

theorem length_nextPlace_le (inFlow keyAllowed inComment : Bool) (cursor : Cursor) :
    (nextPlace inFlow keyAllowed inComment cursor).1.rest.length ≤ cursor.rest.length := by
  fun_induction nextPlace inFlow keyAllowed inComment cursor <;>
    grind

/-! ### What leaves the place alone -/

variable {s after : Scanner}

@[simp] theorem cursor_push (symbol : Symbol) (s : Scanner) :
    (s.push symbol).cursor = s.cursor := rfl

@[simp] theorem cursor_insert (number : Nat) (symbol : Symbol) (s : Scanner) :
    (s.insert number symbol).cursor = s.cursor := rfl

@[simp] theorem cursor_skip (s : Scanner) : s.skip.cursor = s.cursor.skip := rfl

@[simp] theorem cursor_openBlock (column number : Nat) (symbol : Symbol) (s : Scanner) :
    (s.openBlock column number symbol).cursor = s.cursor := by
  unfold openBlock
  split <;> rfl

@[simp] theorem cursor_closeBlocks (column : Option Nat) (s : Scanner) :
    (s.closeBlocks column).cursor = s.cursor := by
  unfold closeBlocks
  split <;> rfl

@[simp] theorem cursor_withKey (key : Option PendingKey) (s : Scanner) :
    (s.withKey key).cursor = s.cursor := by
  unfold withKey
  split <;> rfl

@[simp] theorem inFlow_withKey (key : Option PendingKey) (s : Scanner) :
    (s.withKey key).inFlow = s.inFlow := by
  unfold withKey inFlow
  split
  next none => simp [none]
  next some => simp [some]

theorem eq_of_dropKey (h : s.dropKey = some after) : after = s.withKey none := by
  unfold dropKey at h
  split at h
  · cases h
  · exact (Option.some.inj h).symm

theorem cursor_of_saveKey (h : s.saveKey = some after) :
    after.cursor = s.cursor ∧ after.inFlow = s.inFlow := by
  unfold saveKey at h
  split at h
  · obtain ⟨dropped, isDropped, rfl⟩ := Option.map_eq_some_iff.1 h
    simp [eq_of_dropKey isDropped]
  · cases h
    exact ⟨rfl, rfl⟩

theorem cursor_of_expireKeys (h : s.expireKeys = some after) : after.cursor = s.cursor := by
  unfold expireKeys at h
  dsimp only at h
  split at h
  · cases h
  · cases h
    rfl

/-- Between symbols a text only gets shorter. -/
theorem length_le_of_approach (h : s.approach = some after) :
    after.cursor.rest.length ≤ s.cursor.rest.length := by
  obtain ⟨kept, expired, rfl⟩ := Option.map_eq_some_iff.1 h
  rw [cursor_closeBlocks, cursor_of_expireKeys expired]
  exact length_nextPlace_le _ _ _ _

/-! ### Symbols take characters -/

variable {symbol : Symbol} {c : Char} {rest : List Char}

theorem cursor_of_openFlow (h : s.openFlow symbol = some after) :
    after.cursor = s.cursor.skip := by
  obtain ⟨saved, isSaved, rfl⟩ := Option.map_eq_some_iff.1 h
  simp [(cursor_of_saveKey isSaved).1]

theorem cursor_of_closeFlow (h : s.closeFlow symbol = some after) :
    after.cursor = s.cursor.skip := by
  obtain ⟨dropped, isDropped, rfl⟩ := Option.map_eq_some_iff.1 h
  simp [eq_of_dropKey isDropped]

theorem cursor_of_comma (h : s.comma = some after) : after.cursor = s.cursor.skip := by
  obtain ⟨dropped, isDropped, rfl⟩ := Option.map_eq_some_iff.1 h
  simp [eq_of_dropKey isDropped]

theorem cursor_of_item (h : s.item = some after) : after.cursor = s.cursor.skip := by
  unfold item at h
  split at h
  · obtain ⟨dropped, isDropped, rfl⟩ := Option.map_eq_some_iff.1 h
    simp [eq_of_dropKey isDropped]
  · cases h

theorem cursor_of_explicitKey (h : s.explicitKey = some after) :
    after.cursor = s.cursor.skip := by
  unfold explicitKey at h
  split at h
  · obtain ⟨dropped, isDropped, rfl⟩ := Option.map_eq_some_iff.1 h
    simp [eq_of_dropKey isDropped]
  · cases h

theorem cursor_of_value (h : s.value = some after) : after.cursor = s.cursor.skip := by
  unfold value at h
  split at h
  · cases h
    simp
  · split at h
    · cases h
      simp
    · cases h

theorem length_lt_of_mark (here : s.cursor.rest = c :: rest) (h : s.mark symbol = some after) :
    after.cursor.rest.length < s.cursor.rest.length := by
  obtain ⟨dropped, isDropped, rfl⟩ := Option.map_eq_some_iff.1 h
  have first := Cursor.length_skip_lt here
  have second := s.cursor.skip.length_skip_le
  have third := s.cursor.skip.skip.length_skip_le
  simp only [cursor_skip, cursor_push, eq_of_dropKey isDropped, cursor_withKey, cursor_closeBlocks]
  omega

theorem length_lt_of_plain (here : s.cursor.rest = c :: rest)
    (goesOn : endsPlain s.inFlow c rest = false) (h : s.plain = some after) :
    after.cursor.rest.length < s.cursor.rest.length := by
  obtain ⟨saved, isSaved, read⟩ := Option.bind_eq_some_iff.1 h
  obtain ⟨⟨text, gap, stop⟩, plain, rfl⟩ := Option.map_eq_some_iff.1 read
  obtain ⟨sameCursor, sameFlow⟩ := cursor_of_saveKey isSaved
  rw [sameCursor, sameFlow] at plain
  exact length_lt_of_plainFrom here goesOn plain

theorem length_lt_of_quoted {quote : Char} (here : s.cursor.rest = c :: rest)
    (h : s.quoted quote = some after) : after.cursor.rest.length < s.cursor.rest.length := by
  obtain ⟨saved, isSaved, read⟩ := Option.bind_eq_some_iff.1 h
  obtain ⟨⟨text, stop⟩, quoted, rfl⟩ := Option.map_eq_some_iff.1 read
  rw [(cursor_of_saveKey isSaved).1] at quoted
  exact Nat.lt_of_le_of_lt (length_le_of_quotedFrom quoted) (Cursor.length_skip_lt here)

/-- Each symbol takes at least one character. -/
theorem length_lt_of_take (here : s.cursor.rest = c :: rest) (h : s.take c rest = some after) :
    after.cursor.rest.length < s.cursor.rest.length := by
  have skipped (moved : after.cursor = s.cursor.skip) :
      after.cursor.rest.length < s.cursor.rest.length := by
    rw [moved]
    exact Cursor.length_skip_lt here
  unfold take at h
  split at h
  · exact length_lt_of_mark here h
  · split at h
    · exact length_lt_of_mark here h
    · split at h
      next => exact skipped (cursor_of_openFlow h)
      next => exact skipped (cursor_of_openFlow h)
      next => exact skipped (cursor_of_closeFlow h)
      next => exact skipped (cursor_of_closeFlow h)
      next => exact skipped (cursor_of_comma h)
      next =>
        split at h
        · exact skipped (cursor_of_item h)
        · exact length_lt_of_plain here (by simp [endsPlain, isFlowIndicator]) h
      next =>
        split at h
        · exact skipped (cursor_of_explicitKey h)
        · exact length_lt_of_plain here (by simp [endsPlain, isFlowIndicator]) h
      next =>
        split at h
        next => exact skipped (cursor_of_value h)
        next noGap =>
          simp only [Bool.or_eq_true, not_or, Bool.not_eq_true] at noGap
          exact length_lt_of_plain here (by simp [endsPlain, isFlowIndicator, noGap]) h
      next => exact length_lt_of_quoted here h
      next => exact length_lt_of_quoted here h
      next noColon _ _ =>
        split at h
        next => cases h
        next noIndicator =>
          simp only [isIndicator, Bool.or_eq_true, not_or, Bool.not_eq_true] at noIndicator
          have noColon : c ≠ ':' := noColon
          exact length_lt_of_plain here (by simp [endsPlain, noIndicator, noColon]) h

/-! ### The number that bounds the recursion -/

/-- A number that is larger by one changes nothing. -/
theorem scanFrom_succ {fuel : Nat} {s : Scanner} (enough : s.cursor.rest.length < fuel) :
    scanFrom (fuel + 1) s = scanFrom fuel s := by
  induction fuel generalizing s with
  | zero => cases enough
  | succ fuel ih =>
    unfold scanFrom
    split
    next => rfl
    next s' approached =>
      have := length_le_of_approach approached
      split
      next => rfl
      next c rest here =>
        split
        next taken =>
          have := length_lt_of_take here taken
          exact ih (by omega)
        next => rfl

theorem scanFrom_eq_add (more : Nat) {fuel : Nat} {s : Scanner}
    (enough : s.cursor.rest.length < fuel) : scanFrom fuel s = scanFrom (fuel + more) s := by
  induction more with
  | zero => rfl
  | succ more ih => exact ih.trans (scanFrom_succ (by omega)).symm

/-- The symbols of a text with a larger number than the one that `scan` starts from. -/
theorem scan_eq_add (more : Nat) (cs : List Char) :
    scan cs = if cs.all isAllowed then scanFrom (cs.length + 1 + more) (.start cs) else none := by
  have enough : (start cs).cursor.rest.length < cs.length + 1 := Nat.lt_succ_self _
  rw [scan, scanFrom_eq_add more enough]

end Scanner

end Stepwise.Yaml
