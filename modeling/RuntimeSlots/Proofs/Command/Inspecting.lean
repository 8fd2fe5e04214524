import RuntimeSlots.Command.Reader

/-!
# Command lines that ask for audits

`Grammar.readWords` takes every word behind a divider for an input, whatever it looks like.  So
there is a command line for every list of paths but the empty one, with strictness and without.

* `Taken.foldlM_inputs` takes inputs; `Grammar.readWords_waiting` collects them until the end of the
  line, and `Grammar.readWords_inputs` does so from the divider on.
* `CommandLine.inspecting` asks for the audit of some files; `CommandLine.read_inspecting` says that
  it is understood.
-/

namespace RuntimeSlots

/-! ## Inputs behind a divider -/

/-- `Taken.takeValue` appends each input to those taken before it. -/
theorem Taken.foldlM_inputs {values : List String} (h : ∀ value ∈ values, value ≠ "")
    (taken : Taken) :
    values.foldlM (fun taken value => taken.takeValue .inputs value) taken =
      .ok { taken with inputs := taken.inputs ++ values } := by
  -- Induction on the inputs, for anything taken before them.
  induction values generalizing taken with
  | nil => rw [List.foldlM_nil, List.append_nil]; rfl
  | cons value rest ih =>
    have hvalue : taken.takeValue .inputs value =
        .ok { taken with inputs := taken.inputs ++ [value] } :=
      if_neg (h value (List.mem_cons_self ..))
    have hrest := ih (fun other hother => h other (List.mem_cons_of_mem _ hother))
      { taken with inputs := taken.inputs ++ [value] }
    rw [List.append_assoc, List.singleton_append] at hrest
    rw [List.foldlM_cons, hvalue]
    exact hrest

namespace Grammar

variable {grammar : Grammar}

/-- While inputs wait, each plain word joins them, and the end of the line takes them all. -/
theorem readWords_waiting (hinputs : grammar.hasInputs = true) (taken : Taken)
    (values words : List String) :
    grammar.readWords true { taken := taken, waiting := .values .inputs values } words =
      (values ++ words).foldlM (fun taken value => taken.takeValue .inputs value) taken := by
  -- Induction on the words that are left, for any inputs that wait.
  induction words generalizing values with
  | nil => rw [List.append_nil, readWords]; rfl
  | cons word rest ih =>
    have hplain : grammar.readPlain
        { taken := taken, waiting := .values .inputs values } word =
        .ok { taken := taken, waiting := .values .inputs (values ++ [word]) } :=
      if_pos hinputs
    have hrest := ih (values ++ [word])
    rw [List.append_assoc, List.singleton_append] at hrest
    rw [readWords, hplain]
    exact hrest

/-- Behind a divider all words are inputs: the first one begins to wait, the others join it. -/
theorem readWords_inputs (hinputs : grammar.hasInputs = true) {words : List String}
    (hwords : ∀ word ∈ words, word ≠ "") (hne : words ≠ []) (taken : Taken) :
    grammar.readWords true { taken := taken } words =
      .ok { taken with inputs := taken.inputs ++ words } := by
  cases words with
  | nil => exact absurd rfl hne
  | cons word rest =>
    have hplain : grammar.readPlain { taken := taken } word =
        .ok { taken := taken, waiting := .values .inputs [word] } :=
      if_pos hinputs
    -- Whatever waits at the end of the line is taken there, one input after another.
    rw [readWords, hplain, ← Taken.foldlM_inputs hwords]
    exact readWords_waiting hinputs taken [word] rest

end Grammar

/-! ## Whole lines -/

namespace CommandLine

/-- The command line that asks for the audit of some files.  In front of the divider stands the flag
for strictness, if at all. -/
def inspecting (program : String) (inputs : List String) (strict : Bool) : List String :=
  program :: "inspect" :: ((if strict then [strictFlag] else []) ++ "--" :: inputs)

theorem readWords_options (invocation : Invocation) (inputs : List String) (strict : Bool) :
    (Selection.inspect.grammar (invocation.commandHelp .inspect)).readWords false {}
        ((if strict then [strictFlag] else []) ++ "--" :: inputs) =
      (Selection.inspect.grammar (invocation.commandHelp .inspect)).readWords true
        { taken := { strict := strict } } inputs := by
  cases strict <;> rfl

theorem readCommand_inspecting (invocation : Invocation) {inputs : List String}
    (hinputs : ∀ input ∈ inputs, input ≠ "") (hne : inputs ≠ []) (strict : Bool) :
    invocation.readCommand .inspect ((if strict then [strictFlag] else []) ++ "--" :: inputs) =
      .ok (.inspect inputs strict, none) := by
  have htaken := Grammar.readWords_inputs
    (show (Selection.inspect.grammar (invocation.commandHelp .inspect)).hasInputs = true from rfl)
    hinputs hne { strict := strict }
  rw [← readWords_options] at htaken
  rw [Invocation.readCommand]
  simp only [htaken, bind, Except.bind, List.nil_append]
  exact if_neg (by simpa using hne)

/-- `CommandLine.read` understands `inspecting`: every list of paths can be asked for. -/
theorem read_inspecting (hasTable : Bool) (program : String) {inputs : List String}
    (hinputs : ∀ input ∈ inputs, input ≠ "") (hne : inputs ≠ []) (strict : Bool) :
    read hasTable (inspecting program inputs strict) =
      .ok { command := .inspect inputs strict, logLevel := Invocation.defaultLogLevel } := by
  have hword : Words.classify "inspect" = .plain := rfl
  have hselected : Selection.ofWord? hasTable "inspect" = some .inspect := rfl
  -- The name of the command is the first plain word, and no option stands in front of it.
  rw [read, inspecting]
  simp only [List.head?_cons, List.drop_one, List.tail_cons, Invocation.readWords, hword, hselected,
    readCommand_inspecting _ hinputs hne]
  rfl

end CommandLine

end RuntimeSlots
