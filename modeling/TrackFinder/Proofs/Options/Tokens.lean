import Mathlib.Logic.ExistsUnique
import TrackFinder.Options
import TrackFinder.Proofs.Text.Occurrence

/-! The command line as a row of tokens. The options among them may stand anywhere, the last log
format counts, and what is left has to be a command and its path. -/
namespace TrackFinder.Options

/-- What one argument says, or two: a log format may follow in an argument of its own. -/
inductive Token where
  | all
  | format (value : String)
  | formatIs (value : String)
  | formatOpen
  | other (argument : String)
deriving DecidableEq

namespace Token

/-- The arguments that make a token. -/
def arguments : Token → List String
  | all => ["--all"]
  | format value => ["--log-format", value]
  | formatIs value => ["--log-format=" ++ value]
  | formatOpen => ["--log-format"]
  | other argument => [argument]

/-- The log format that a token asks for, as it is written. -/
def value? : Token → Option String
  | format value | formatIs value => some value
  | _ => none

/-- The argument that is left where a token is no option. -/
def rest? : Token → Option String
  | other argument => some argument
  | _ => none

end Token

/-- The tokens of the arguments, read from left to right. What is no token of another kind is an
argument by itself. -/
inductive Reads : List String → List Token → Prop where
  | nil : Reads [] []
  | all {rest : List String} {line : List Token} (h : Reads rest line) :
    Reads ("--all" :: rest) (.all :: line)
  | format (value : String) {rest : List String} {line : List Token} (h : Reads rest line) :
    Reads ("--log-format" :: value :: rest) (.format value :: line)
  | formatOpen : Reads ["--log-format"] [.formatOpen]
  | formatIs (value : String) {rest : List String} {line : List Token} (h : Reads rest line) :
    Reads (("--log-format=" ++ value) :: rest) (.formatIs value :: line)
  | other {argument : String} {rest : List String} {line : List Token}
    (hall : argument ≠ "--all") (hformat : argument ≠ "--log-format")
    (his : ∀ value, argument ≠ "--log-format=" ++ value) (h : Reads rest line) :
    Reads (argument :: rest) (.other argument :: line)

/-- The words for log formats. -/
def IsFormatWord (value : String) : Prop := value = "json" ∨ value = "pretty" ∨ value = "text"

/-- The log format that a word stands for. -/
def formatOf (value : String) : LogFormat := if value = "json" then .json else .pretty

/-- Whether an argument looks like an option. -/
def IsDashed (argument : String) : Prop := "--".toList <+: argument.toList

instance : DecidablePred IsDashed := fun _ => inferInstanceAs (Decidable (_ <+: _))

/-- The grammar of the command line. -/
structure IsCommandLine (line : List Token) : Prop where
  closed : .formatOpen ∉ line
  formats : ∀ value ∈ line.filterMap Token.value?, IsFormatWord value
  known : ∀ argument ∈ line.filterMap Token.rest?, ¬ IsDashed argument
  command : ∃ verb path, line.filterMap Token.rest? = [verb, path] ∧
    (verb = "detect" ∨ verb = "list")

/-- Whether a command line asks for these options. -/
structure Asks (line : List Token) (options : Options) : Prop where
  command : ∃ verb path, line.filterMap Token.rest? = [verb, path] ∧
    (verb = "detect" ∧ options.command = .detect (Path.ofText path) (Token.all ∈ line) ∨
      verb = "list" ∧ options.command = .list (Path.ofText path))
  logFormat : options.logFormat =
    ((line.filterMap Token.value?).getLast?.map formatOf).getD .json

/-- Whether two command lines are made of the same tokens, of which the log formats and the
arguments of the command stand in the same order. -/
structure Interleaved (line line' : List Token) : Prop where
  perm : line.Perm line'
  formats : line.filterMap Token.value? = line'.filterMap Token.value?
  arguments : (line.filterMap Token.rest?).filter (¬ IsDashed ·) =
    (line'.filterMap Token.rest?).filter (¬ IsDashed ·)

variable {arguments : List String} {line line' : List Token} {heard heard' : Heard}
  {options : Options} {token : Token} {argument value : String} {format : LogFormat}

theorem toOption_eq_some {α ε : Type} {result : Except ε α} {a : α} :
    result.toOption = some a ↔ result = .ok a := by
  cases result <;> simp [Except.toOption]

/-- Where there is an error, what would have led to a result does not hold. -/
theorem not_of_eq_error {α ε : Type} {result : Except ε α} {error : ε} {a : α} {p : Prop}
    (h : result = .error error) (hok : p → result = .ok a) : ¬ p := by
  intro hp
  rw [hok hp] at h
  cases h

theorem formatValue?_eq_some :
    formatValue? argument = some value ↔ argument = "--log-format=" ++ value := by
  rw [formatValue?, Option.map_eq_some_iff]
  constructor
  · rintro ⟨rest, hrest, rfl⟩
    rw [← String.toList_inj, String.toList_append, @String.toList_ofList rest]
    exact Text.stripLead_eq_some.mp hrest
  · rintro rfl
    refine ⟨value.toList, Text.stripLead_eq_some.mpr ?_, String.ofList_toList⟩
    rw [String.toList_append]

theorem formatValue?_eq_none :
    formatValue? argument = none ↔ ∀ value, argument ≠ "--log-format=" ++ value := by
  simp only [Option.eq_none_iff_forall_ne_some, ne_eq, formatValue?_eq_some]

/-- The tokens that are read, computed. -/
def tokens : List String → List Token
  | [] => []
  | argument :: rest =>
    if argument = "--all" then .all :: tokens rest
    else if argument = "--log-format" then
      match rest with
      | [] => [.formatOpen]
      | value :: rest => .format value :: tokens rest
    else
      match formatValue? argument with
      | some value => .formatIs value :: tokens rest
      | none => .other argument :: tokens rest

theorem reads_tokens (arguments : List String) : Reads arguments (tokens arguments) := by
  fun_induction tokens arguments with
  | case1 => exact .nil
  | case2 rest ih => exact .all ih
  | case3 => exact .formatOpen
  | case4 value rest _ ih => exact .format value ih
  | case5 argument rest _ _ value hvalue ih =>
    rw [formatValue?_eq_some.mp hvalue]
    exact .formatIs value ih
  | case6 argument rest hall hformat hvalue ih =>
    exact .other hall hformat (formatValue?_eq_none.mp hvalue) ih

theorem formatIs_ne {word : String} (h : ¬ "--log-format=".toList <+: word.toList) :
    "--log-format=" ++ value ≠ word := by
  rintro rfl
  rw [String.toList_append] at h
  exact h (List.prefix_append _ _)

theorem Reads.eq_tokens (h : Reads arguments line) : line = tokens arguments := by
  induction h with
  | nil | formatOpen => rfl
  | all _ ih =>
    unfold tokens
    rw [if_pos rfl, ih]
  | format value _ ih =>
    unfold tokens
    rw [if_neg (by decide), if_pos rfl, ih]
  | formatIs value _ ih =>
    unfold tokens
    rw [if_neg (formatIs_ne (by decide)), if_neg (formatIs_ne (by decide)),
      formatValue?_eq_some.mpr rfl, ih]
  | other hall hformat his _ ih =>
    unfold tokens
    rw [if_neg hall, if_neg hformat, formatValue?_eq_none.mpr his, ih]

/-- Arguments are read in one way. -/
theorem reads_iff : Reads arguments line ↔ line = tokens arguments := by
  constructor
  · exact Reads.eq_tokens
  · rintro rfl
    exact reads_tokens arguments

/-- No argument is lost or changed where tokens are made of them. -/
theorem Reads.flatMap_arguments (h : Reads arguments line) :
    line.flatMap Token.arguments = arguments := by
  induction h with
  | nil | formatOpen => rfl
  | all _ ih | format _ _ ih | formatIs _ _ ih | other _ _ _ _ ih =>
    rw [List.flatMap_cons, ih]
    rfl

/-- Takes in what a token says. -/
def Heard.take (heard : Heard) : Token → Except UsageError Heard
  | .all => .ok { heard with showRejected := true }
  | .format value | .formatIs value =>
    match LogFormat.ofText value with
    | .ok format => .ok { heard with logFormat := format }
    | .error error => .error error
  | .formatOpen => .error .formatMissing
  | .other argument =>
    if IsDashed argument then .error (.optionUnknown argument)
    else .ok { heard with plain := heard.plain ++ [argument] }

/-- The arguments are heard token by token. -/
theorem hear_eq (heard : Heard) (arguments : List String) :
    hear heard arguments = (tokens arguments).foldlM Heard.take heard := by
  fun_induction tokens arguments generalizing heard with
  | case1 => rfl
  | case2 rest ih =>
    unfold hear
    rw [if_pos rfl, ih, List.foldlM_cons]
    rfl
  | case3 => rfl
  | case4 value rest _ ih =>
    unfold hear
    rw [if_neg (by decide), if_pos rfl, List.foldlM_cons, Heard.take]
    dsimp only
    cases LogFormat.ofText value with
    | ok format => exact ih _
    | error error => rfl
  | case5 argument rest hall hformat value hvalue ih =>
    unfold hear
    rw [if_neg hall, if_neg hformat, hvalue, List.foldlM_cons, Heard.take]
    dsimp only
    cases LogFormat.ofText value with
    | ok format => exact ih _
    | error error => rfl
  | case6 argument rest hall hformat hvalue ih =>
    unfold hear
    rw [if_neg hall, if_neg hformat, hvalue, List.foldlM_cons, Heard.take]
    by_cases hdashed : IsDashed argument
    · rw [if_pos hdashed]
      exact if_pos (List.isPrefixOf_iff_prefix.mpr hdashed)
    · rw [if_neg hdashed]
      exact (if_neg (mt List.isPrefixOf_iff_prefix.mp hdashed)).trans (ih _)

/-- Whether a token can be taken in, whatever comes before and after it. -/
def Token.IsSound : Token → Prop
  | .all => True
  | .format value | .formatIs value => IsFormatWord value
  | .formatOpen => False
  | .other argument => ¬ IsDashed argument

/-- What has been heard after tokens that can be taken in. -/
def Heard.after (heard : Heard) (line : List Token) : Heard where
  showRejected := heard.showRejected || Token.all ∈ line
  logFormat := ((line.filterMap Token.value?).getLast?.map formatOf).getD heard.logFormat
  plain := heard.plain ++ line.filterMap Token.rest?

theorem ofText_eq_ok :
    LogFormat.ofText value = .ok format ↔ IsFormatWord value ∧ format = formatOf value := by
  unfold LogFormat.ofText IsFormatWord formatOf
  by_cases hjson : value = "json"
  · simp [hjson, @eq_comm _ format]
  · by_cases hpretty : value = "pretty" ∨ value = "text"
    · simp [hjson, hpretty, @eq_comm _ format]
    · simp [hjson, hpretty]

theorem after_nil (heard : Heard) : heard.after [] = heard := by
  simp [Heard.after]

/-- The last log format counts, and what is left stands as it was given. -/
theorem after_cons (heard : Heard) (token : Token) (line : List Token) :
    heard.after (token :: line) = (heard.after [token]).after line := by
  unfold Heard.after
  generalize hvalues : line.filterMap Token.value? = values
  cases token <;>
    simp [List.filterMap_cons, Token.value?, Token.rest?, hvalues, List.getLast?_cons,
      Option.getD_map]

/-- A token is taken in as it should be, or is at fault. -/
theorem take_eq_ok :
    heard.take token = .ok heard' ↔ token.IsSound ∧ heard' = heard.after [token] := by
  cases token with
  | all =>
    simp [Heard.take, Token.IsSound, Heard.after, List.filterMap_cons, Token.value?, Token.rest?,
      @eq_comm _ heard']
  | format value | formatIs value =>
    cases hvalue : LogFormat.ofText value with
    | ok format =>
      obtain ⟨hword, rfl⟩ := ofText_eq_ok.mp hvalue
      simp [Heard.take, Token.IsSound, Heard.after, List.filterMap_cons, Token.value?,
        Token.rest?, hvalue, hword, @eq_comm _ heard']
    | error error =>
      have hword : ¬ IsFormatWord value :=
        not_of_eq_error hvalue fun hword => ofText_eq_ok.mpr ⟨hword, rfl⟩
      simp [Heard.take, Token.IsSound, hvalue, hword]
  | formatOpen => simp [Heard.take, Token.IsSound]
  | other argument =>
    by_cases hdashed : IsDashed argument
    · simp [Heard.take, Token.IsSound, hdashed]
    · simp [Heard.take, Token.IsSound, Heard.after, List.filterMap_cons, Token.value?,
        Token.rest?, hdashed, @eq_comm _ heard']

/-- A row of tokens is taken in if each of them can be. -/
theorem foldlM_take_eq_ok :
    line.foldlM Heard.take heard = .ok heard' ↔
      (∀ t ∈ line, t.IsSound) ∧ heard' = heard.after line := by
  induction line generalizing heard with
  | nil =>
    rw [List.foldlM_nil, after_nil]
    simp [pure, Except.pure, eq_comm]
  | cons token line ih =>
    rw [List.foldlM_cons, after_cons, List.forall_mem_cons]
    cases htake : heard.take token with
    | ok next =>
      obtain ⟨hsound, rfl⟩ := take_eq_ok.mp htake
      rw [and_iff_right hsound]
      exact ih
    | error error =>
      have hfault : ¬ token.IsSound :=
        not_of_eq_error htake fun hsound => take_eq_ok.mpr ⟨hsound, rfl⟩
      simp [hfault, bind, Except.bind]

theorem forall_isSound :
    (∀ t ∈ line, t.IsSound) ↔ .formatOpen ∉ line ∧
      (∀ value ∈ line.filterMap Token.value?, IsFormatWord value) ∧
      ∀ argument ∈ line.filterMap Token.rest?, ¬ IsDashed argument := by
  induction line with
  | nil => simp
  | cons token line ih =>
    rw [List.forall_mem_cons, ih]
    cases token <;> simp [Token.IsSound, List.filterMap_cons, Token.value?, Token.rest?, and_assoc,
      and_left_comm]

theorem command?_eq_some {command : Command} :
    command? heard = some command ↔ ∃ verb path, heard.plain = [verb, path] ∧
      (verb = "detect" ∧ command = .detect (Path.ofText path) heard.showRejected ∨
        verb = "list" ∧ command = .list (Path.ofText path)) := by
  unfold command?
  split
  · rename_i verb path hplain
    rw [hplain]
    constructor
    · intro h
      refine ⟨verb, path, rfl, ?_⟩
      split at h
      · cases h
        exact Or.inl ⟨‹_›, rfl⟩
      · split at h <;> cases h
        exact Or.inr ⟨‹_›, rfl⟩
    · rintro ⟨_, _, ⟨⟩, ⟨rfl, rfl⟩ | ⟨rfl, rfl⟩⟩ <;> rfl
  · rename_i hother
    constructor
    · rintro ⟨⟩
    · rintro ⟨verb, path, hplain, -⟩
      exact (hother verb path hplain).elim

/-- The arguments are accepted if each token can be taken in and they ask for something. -/
theorem ofArguments_eq_ok :
    ofArguments arguments = .ok options ↔
      (∀ t ∈ tokens arguments, t.IsSound) ∧ Asks (tokens arguments) options := by
  have hask : Asks (tokens arguments) options ↔
      command? (Heard.nothing.after (tokens arguments)) = some options.command ∧
        options.logFormat = (Heard.nothing.after (tokens arguments)).logFormat := by
    rw [command?_eq_some]
    simp only [Heard.after, Heard.nothing, List.nil_append, Bool.false_or]
    exact ⟨fun h => ⟨h.command, h.logFormat⟩, fun h => ⟨h.1, h.2⟩⟩
  rw [hask, ofArguments]
  cases hheard : hear .nothing arguments with
  | ok heard =>
    rw [hear_eq, foldlM_take_eq_ok] at hheard
    obtain ⟨hsound, rfl⟩ := hheard
    rw [and_iff_right hsound]
    dsimp only
    cases command? (Heard.nothing.after (tokens arguments)) with
    | none => simp
    | some command =>
      obtain ⟨command', format⟩ := options
      simp [@eq_comm _ format]
  | error error =>
    rw [hear_eq] at hheard
    have hfault : ¬ ∀ t ∈ tokens arguments, t.IsSound :=
      not_of_eq_error hheard fun hsound => foldlM_take_eq_ok.mpr ⟨hsound, rfl⟩
    simp [hfault]

theorem isCommandLine_iff :
    IsCommandLine line ↔ (∀ t ∈ line, t.IsSound) ∧ ∃ options, Asks line options := by
  rw [forall_isSound]
  constructor
  · rintro ⟨hclosed, hformats, hknown, verb, path, hrest, hverb⟩
    refine ⟨⟨hclosed, hformats, hknown⟩, ?_⟩
    rcases hverb with hverb | hverb
    · exact ⟨⟨.detect (Path.ofText path) (Token.all ∈ line), _⟩,
        ⟨verb, path, hrest, Or.inl ⟨hverb, rfl⟩⟩, rfl⟩
    · exact ⟨⟨.list (Path.ofText path), _⟩, ⟨verb, path, hrest, Or.inr ⟨hverb, rfl⟩⟩, rfl⟩
  · rintro ⟨⟨hclosed, hformats, hknown⟩, options, ⟨verb, path, hrest, hcommand⟩, -⟩
    exact ⟨hclosed, hformats, hknown, verb, path, hrest, hcommand.imp And.left And.left⟩

namespace Interleaved

theorem isSound_iff (h : Interleaved line line') :
    (∀ t ∈ line, t.IsSound) ↔ ∀ t ∈ line', t.IsSound := by
  simp only [h.perm.mem_iff]

/-- Where no argument looks like an option, all that are left are those of the command. -/
theorem rest_eq (h : Interleaved line line') (hsound : ∀ t ∈ line, t.IsSound) :
    line.filterMap Token.rest? = line'.filterMap Token.rest? := by
  have hplain : ∀ {row : List Token}, (∀ t ∈ row, t.IsSound) →
      (row.filterMap Token.rest?).filter (¬ IsDashed ·) = row.filterMap Token.rest? := by
    intro row hrow
    apply List.filter_eq_self.mpr
    simpa using (forall_isSound.mp hrow).2.2
  rw [← hplain hsound, ← hplain (h.isSound_iff.mp hsound), h.arguments]

theorem asks_iff (h : Interleaved line line') (hsound : ∀ t ∈ line, t.IsSound) :
    Asks line options ↔ Asks line' options := by
  have hall : decide (Token.all ∈ line) = decide (Token.all ∈ line') :=
    decide_eq_decide.mpr h.perm.mem_iff
  constructor
  · rintro ⟨hcommand, hformat⟩
    rw [h.rest_eq hsound, hall] at hcommand
    exact ⟨hcommand, h.formats ▸ hformat⟩
  · rintro ⟨hcommand, hformat⟩
    rw [← h.rest_eq hsound, ← hall] at hcommand
    exact ⟨hcommand, h.formats ▸ hformat⟩

end Interleaved

/-- Arguments are read in one way, and are accepted just if their tokens follow the grammar. Then
they come to what the tokens ask for. The same tokens in another order come to the same options, or
to none, as long as the log formats and the arguments of the command keep theirs. -/
theorem ofArguments_exact (arguments : List String) :
    (∃! line, Reads arguments line) ∧ ∀ line, Reads arguments line →
      line.flatMap Token.arguments = arguments ∧
      ((∃ options, ofArguments arguments = .ok options) ↔ IsCommandLine line) ∧
      (∀ options, ofArguments arguments = .ok options → Asks line options) ∧
      ∀ others line', Reads others line' → Interleaved line line' →
        (ofArguments arguments).toOption = (ofArguments others).toOption := by
  refine ⟨⟨_, reads_tokens arguments, fun _ h => h.eq_tokens⟩, ?_⟩
  intro line hline
  refine ⟨hline.flatMap_arguments, ?_⟩
  rw [hline.eq_tokens]
  refine ⟨?_, fun _ h => (ofArguments_eq_ok.mp h).2, ?_⟩
  · simp only [isCommandLine_iff, ofArguments_eq_ok, exists_and_left]
  · intro others line' hline' h
    rw [hline'.eq_tokens] at h
    ext options
    rw [toOption_eq_some, toOption_eq_some, ofArguments_eq_ok, ofArguments_eq_ok, ← h.isSound_iff]
    exact and_congr_right h.asks_iff

/-- The options may all stand in front, and the log format that comes last counts. -/
theorem ofArguments_exact_interleaved :
    let arguments := ["--all", "detect", "--log-format", "text", "/m/a", "--log-format=json"]
    let others := ["--log-format", "text", "--log-format=json", "detect", "/m/a", "--all"]
    let line : List Token :=
      [.all, .other "detect", .format "text", .other "/m/a", .formatIs "json"]
    let line' : List Token :=
      [.format "text", .formatIs "json", .other "detect", .other "/m/a", .all]
    let options : Options := ⟨.detect (Path.ofText "/m/a") true, .json⟩
    Reads arguments line ∧ Reads others line' ∧ Interleaved line line' ∧
      IsCommandLine line ∧ Asks line options ∧
      ofArguments arguments = .ok options ∧ ofArguments others = .ok options := by
  intro arguments others line line' options
  have hline : Reads arguments line := reads_iff.mpr (by decide)
  have hline' : Reads others line' := reads_iff.mpr (by decide)
  have hmixed : Interleaved line line' := ⟨by decide, by decide, by decide⟩
  have hok : ofArguments arguments = .ok options := by rfl
  obtain ⟨-, haccepted, hasks, hsame⟩ := (ofArguments_exact arguments).2 line hline
  have hothers : (ofArguments others).toOption = some options := by
    rw [← hsame others line' hline' hmixed, hok]
    rfl
  exact ⟨hline, hline', hmixed, haccepted.mp ⟨options, hok⟩, hasks options hok, hok,
    toOption_eq_some.mp hothers⟩

/-- What looks like an option is none where a log format should be. -/
example :
    ofArguments ["--log-format", "--all", "list", "/m"] = .error (.formatUnknown "--all") := by
  rfl

end TrackFinder.Options
