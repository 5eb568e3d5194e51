import Mathlib.Data.List.Infix

/-
This file models the option loop of the feeder's `main` and compares it with the options of its help text.
-/

namespace VehicleEdge.Adapter.CommandLine

/-- An argument is the text between two zero bytes. -/
abbrev Argument := List Char

def argTarget : Argument := "--target".toList

def argDummyFeeder : Argument := "--dummy-feeder".toList

def argHelp : Argument := "--help".toList

/-- These options take the next argument as their value. -/
inductive ValueOption where
  | someipCfg | someipApp | token
  deriving DecidableEq

def ValueOption.name : ValueOption → Argument
  | .someipCfg => "--someip-cfg".toList
  | .someipApp => "--someip-app".toList
  | .token => "--token".toList

/-- The loop fills these variables of `main`. -/
structure Settings where
  target : Argument
  tokenFile : Argument
  someipConfig : Argument
  someipApp : Argument
  useDummyFeeder : Bool
  deriving DecidableEq

/-- The environment gives the defaults of two variables. -/
def environmentSettings (brokerAddr brokerTokenFile : Option Argument) : Settings where
  target := brokerAddr.getD "localhost:55555".toList
  tokenFile := brokerTokenFile.getD []
  someipConfig := []
  someipApp := []
  useDummyFeeder := false

def Settings.set (settings : Settings) (option : ValueOption) (value : Argument) : Settings :=
  match option with
  | .someipCfg => { settings with someipConfig := value }
  | .someipApp => { settings with someipApp := value }
  | .token => { settings with tokenFile := value }

/-- The loop ends with its variables, or the program exits with a status. -/
inductive Outcome where
  | continued (settings : Settings)
  | exited (status : Nat)
  deriving DecidableEq

/-- This is the text after the first occurrence, which `find` and `substr` give together. -/
def textAfter (needle : Argument) : Argument → Option Argument
  | [] => if needle = [] then some [] else none
  | letter :: text =>
      if needle.isPrefixOf (letter :: text) then some ((letter :: text).drop needle.length)
      else textAfter needle text

/-- The address follows the first `--target` of the argument and an equals sign. -/
def targetAddress (argVal : Argument) : Option Argument :=
  match textAfter argTarget argVal with
  | some ('=' :: address) => some address
  | _ => none

/-- The options with a value are compared in this order. -/
def valueOption (argVal : Argument) : Option ValueOption :=
  if argVal = ValueOption.someipCfg.name then some .someipCfg
  else if argVal = ValueOption.someipApp.name then some .someipApp
  else if argVal = ValueOption.token.name then some .token
  else none

/-- An option with a value needs a further argument, and any other argument is searched for a target. -/
def parse (settings : Settings) : List Argument → Outcome
  | [] => .continued settings
  | argVal :: args =>
      if argVal = argHelp then .exited 0
      else
        match valueOption argVal, args with
        | some option, value :: args => parse (settings.set option value) args
        | _, args =>
            match targetAddress argVal with
            | some address => parse { settings with target := address } args
            | none => .exited 1

/-- These are the options of a command line, and a target can have a text before it. -/
inductive Word where
  | setting (option : ValueOption) (value : Argument)
  | target (before address : Argument)
  | dummyFeeder
  deriving DecidableEq

namespace Word

def render : Word → List Argument
  | .setting option value => [option.name, value]
  | .target before address => [before ++ (argTarget ++ '=' :: address)]
  | .dummyFeeder => [argDummyFeeder]

/-- The help text has a target only at the start of an argument. -/
def Documented : Word → Prop
  | .target before _ => before = []
  | _ => True

/-- The loop takes the first target of any argument, and it has no branch for the dummy feeder. -/
def Tolerated : Word → Prop
  | .setting _ _ => True
  | .target before address => targetAddress (before ++ (argTarget ++ '=' :: address)) = some address
  | .dummyFeeder => False

def address : Word → Option Argument
  | .target _ address => some address
  | _ => none

def valueFor (option : ValueOption) : Word → Option Argument
  | .setting other value => if other = option then some value else none
  | _ => none

end Word

def render (words : List Word) : List Argument := words.flatMap Word.render

/-- The arguments are a sequence of documented options. -/
def IsDocumented (args : List Argument) : Prop :=
  ∃ words : List Word, (∀ word ∈ words, word.Documented) ∧ args = render words

/-- The help option follows a sequence of documented options. -/
def HelpRequested (args : List Argument) : Prop :=
  ∃ words : List Word, (∀ word ∈ words, word.Documented) ∧ ∃ rest, args = render words ++ argHelp :: rest

/-- The last occurrence of each option counts. -/
def expected (defaults : Settings) (words : List Word) : Settings where
  target := (words.filterMap Word.address).getLast?.getD defaults.target
  tokenFile := (words.filterMap (Word.valueFor .token)).getLast?.getD defaults.tokenFile
  someipConfig := (words.filterMap (Word.valueFor .someipCfg)).getLast?.getD defaults.someipConfig
  someipApp := (words.filterMap (Word.valueFor .someipApp)).getLast?.getD defaults.someipApp
  useDummyFeeder := defaults.useDummyFeeder || words.contains .dummyFeeder

/-- The loop accepts exactly the documented sequences, with the settings that they name. -/
structure FollowsHelp (defaults : Settings) (args : List Argument) : Prop where
  accepts : (∃ settings, parse defaults args = .continued settings) ↔ IsDocumented args
  settings : ∀ words : List Word, (∀ word ∈ words, word.Documented) → args = render words →
    parse defaults args = .continued (expected defaults words)
  rejects : ¬ IsDocumented args → ¬ HelpRequested args → parse defaults args = .exited 1

/-- The options go on to the end of the arguments or to a help option. -/
def Covers (words : List Word) (args : List Argument) : Prop :=
  args = render words ∨ ∃ rest, args = render words ++ argHelp :: rest

/-- The arguments are documented and ask for the dummy feeder. -/
def NamesDummyFeeder (args : List Argument) : Prop :=
  ∃ words : List Word, (∀ word ∈ words, word.Documented) ∧ .dummyFeeder ∈ words ∧ args = render words

/-- The loop takes all options, and some argument has a text before its target. -/
def HidesTarget (args : List Argument) : Prop :=
  ∃ words : List Word, (∀ word ∈ words, word.Tolerated) ∧ (∃ word ∈ words, ¬ word.Documented) ∧
    Covers words args

section Search

theorem textAfter_some {needle text rest : Argument} (found : textAfter needle text = some rest) :
    ∃ before, text = before ++ (needle ++ rest) := by
  induction text with
  | nil =>
      simp only [textAfter] at found
      split at found
      case isTrue empty =>
        cases found
        exact ⟨[], by simp [empty]⟩
      case isFalse => cases found
  | cons letter text ih =>
      simp only [textAfter] at found
      split at found
      case isTrue starts =>
        cases found
        have whole := List.prefix_iff_eq_append.mp (List.isPrefixOf_iff_prefix.mp starts)
        exact ⟨[], by rw [List.nil_append, whole]⟩
      case isFalse =>
        obtain ⟨before, rfl⟩ := ih found
        exact ⟨letter :: before, rfl⟩

theorem targetAddress_some {argVal address : Argument} (found : targetAddress argVal = some address) :
    ∃ before, argVal = before ++ (argTarget ++ '=' :: address) := by
  unfold targetAddress at found
  split at found
  case h_1 text after =>
    cases found
    exact textAfter_some after
  case h_2 => cases found

theorem textAfter_append (needle rest : Argument) : textAfter needle (needle ++ rest) = some rest := by
  have starts : needle.isPrefixOf (needle ++ rest) = true :=
    List.isPrefixOf_iff_prefix.mpr (List.prefix_append needle rest)
  cases text : needle ++ rest with
  | nil =>
      obtain ⟨rfl, rfl⟩ := List.append_eq_nil_iff.mp text
      rfl
  | cons letter tail => rw [textAfter, ← text, if_pos starts, List.drop_left]

/-- A target at the start of an argument is the first one. -/
theorem targetAddress_documented (address : Argument) :
    targetAddress (argTarget ++ '=' :: address) = some address := by
  rw [targetAddress, textAfter_append]
  rfl

theorem targetAddress_name (option : ValueOption) : targetAddress option.name = none := by
  cases option <;> decide

theorem targetAddress_dummyFeeder : targetAddress argDummyFeeder = none := by
  decide

theorem targetAddress_help : targetAddress argHelp = none := by
  decide

theorem valueOption_name (option : ValueOption) : valueOption option.name = some option := by
  cases option <;> decide

theorem valueOption_some {argVal : Argument} {option : ValueOption}
    (found : valueOption argVal = some option) : argVal = option.name := by
  unfold valueOption at found
  split at found
  case isTrue same =>
    cases found
    exact same
  case isFalse =>
    split at found
    case isTrue same =>
      cases found
      exact same
    case isFalse =>
      split at found
      case isTrue same =>
        cases found
        exact same
      case isFalse => cases found

/-- An argument with an address is neither the help option nor an option with a value. -/
theorem valueOption_of_address {argVal address : Argument} (found : targetAddress argVal = some address) :
    argVal ≠ argHelp ∧ valueOption argVal = none := by
  constructor
  · rintro rfl
    cases targetAddress_help.symm.trans found
  · cases named : valueOption argVal with
    | none => rfl
    | some option =>
        rw [valueOption_some named, targetAddress_name] at found
        cases found

end Search

section Loop

/-- An accepted option changes its own variable. -/
def Settings.apply (settings : Settings) : Word → Settings
  | .setting option value => settings.set option value
  | .target _ address => { settings with target := address }
  | .dummyFeeder => { settings with useDummyFeeder := true }

theorem foldl_apply (defaults : Settings) (words : List Word) :
    words.foldl Settings.apply defaults = expected defaults words := by
  induction words using List.reverseRecOn with
  | nil => simp [expected]
  | append_singleton words word ih =>
      rw [List.foldl_concat, ih]
      cases word with
      | setting option value =>
          cases option <;>
            simp [expected, Settings.apply, Settings.set, Word.address, Word.valueFor]
      | target before address => simp [expected, Settings.apply, Word.address, Word.valueFor]
      | dummyFeeder => simp [expected, Settings.apply, Word.address, Word.valueFor]

@[simp] theorem render_cons (word : Word) (words : List Word) :
    render (word :: words) = word.render ++ render words := rfl

variable (settings : Settings)

theorem parse_address {argVal address : Argument} (found : targetAddress argVal = some address)
    (args : List Argument) :
    parse settings (argVal :: args) = parse { settings with target := address } args := by
  obtain ⟨other, unnamed⟩ := valueOption_of_address found
  conv_lhs => unfold parse
  rw [if_neg other, unnamed]
  dsimp only
  rw [found]

theorem parse_setting (option : ValueOption) (value : Argument) (args : List Argument) :
    parse settings (option.name :: value :: args) = parse (settings.set option value) args := by
  have other : option.name ≠ argHelp := by cases option <;> decide
  conv_lhs => unfold parse
  rw [if_neg other, valueOption_name]

theorem parse_dummyFeeder (args : List Argument) : parse settings (argDummyFeeder :: args) = .exited 1 := by
  have unnamed : valueOption argDummyFeeder = none := by decide
  unfold parse
  rw [if_neg (by decide), unnamed]
  dsimp only
  rw [targetAddress_dummyFeeder]

theorem parse_help (args : List Argument) : parse settings (argHelp :: args) = .exited 0 := by
  unfold parse
  exact if_pos rfl

/-- The loop goes through the options that it takes one by one. -/
theorem parse_tolerated {words : List Word} (tolerated : ∀ word ∈ words, word.Tolerated)
    (args : List Argument) :
    parse settings (render words ++ args) = parse (words.foldl Settings.apply settings) args := by
  induction words generalizing settings with
  | nil => rfl
  | cons word words ih =>
      obtain ⟨first, others⟩ := List.forall_mem_cons.mp tolerated
      rw [List.foldl_cons, ← ih _ others, render_cons, List.append_assoc]
      cases word with
      | setting option value => exact parse_setting settings option value _
      | target before address => exact parse_address settings first _
      | dummyFeeder => exact first.elim

theorem tolerated_of_documented {word : Word} (documented : word.Documented)
    (other : word ≠ .dummyFeeder) : word.Tolerated := by
  cases word with
  | setting => trivial
  | target before address =>
      cases (show before = [] from documented)
      exact targetAddress_documented address
  | dummyFeeder => exact absurd rfl other

/-- The loop ends at the first dummy feeder option. -/
theorem parse_dummy {words : List Word} (documented : ∀ word ∈ words, word.Documented)
    (named : .dummyFeeder ∈ words) : parse settings (render words) = .exited 1 := by
  induction words generalizing settings with
  | nil => cases named
  | cons word words ih =>
      obtain ⟨first, others⟩ := List.forall_mem_cons.mp documented
      by_cases dummy : word = .dummyFeeder
      · subst dummy
        exact parse_dummyFeeder settings _
      · have later : .dummyFeeder ∈ words := by
          rcases List.mem_cons.mp named with same | later
          · exact absurd same.symm dummy
          · exact later
        have tolerated : ∀ taken ∈ [word], taken.Tolerated :=
          List.forall_mem_singleton.mpr (tolerated_of_documented first dummy)
        have taken := parse_tolerated settings tolerated (render words)
        rw [render, List.flatMap_singleton] at taken
        rw [render_cons, taken]
        exact ih _ others later

theorem Covers.cons {words : List Word} {args : List Argument} (covers : Covers words args) (word : Word) :
    Covers (word :: words) (word.render ++ args) := by
  rcases covers with rfl | ⟨rest, rfl⟩
  · exact Or.inl rfl
  · exact Or.inr ⟨rest, by rw [render_cons, List.append_assoc]⟩

/-- The loop exits with an error, or it takes options up to the end or up to a help option. -/
theorem parse_cases (args : List Argument) :
    parse settings args = .exited 1 ∨
      ∃ words : List Word, (∀ word ∈ words, word.Tolerated) ∧ Covers words args := by
  fun_induction parse settings args with
  | case1 => exact Or.inr ⟨[], by simp, Or.inl rfl⟩
  | case2 settings args => exact Or.inr ⟨[], by simp, Or.inr ⟨args, rfl⟩⟩
  | case3 settings argVal _ option value args named ih =>
      apply ih.imp_right
      rintro ⟨words, tolerated, covers⟩
      rw [valueOption_some named]
      exact ⟨.setting option value :: words, List.forall_mem_cons.mpr ⟨trivial, tolerated⟩, covers.cons _⟩
  | case4 settings argVal _ args address found _ ih =>
      apply ih.imp_right
      rintro ⟨words, tolerated, covers⟩
      obtain ⟨before, rfl⟩ := targetAddress_some found
      exact ⟨.target before address :: words, List.forall_mem_cons.mpr ⟨found, tolerated⟩, covers.cons _⟩
  | case5 => exact Or.inl rfl

/-- The loop continues or prints the help when it takes all options. -/
theorem parse_covers {words : List Word} {args : List Argument} (tolerated : ∀ word ∈ words, word.Tolerated)
    (covers : Covers words args) :
    (args = render words ∧ parse settings args = .continued (words.foldl Settings.apply settings)) ∨
      parse settings args = .exited 0 := by
  rcases covers with rfl | ⟨rest, rfl⟩
  · have ended := parse_tolerated settings tolerated []
    rw [List.append_nil] at ended
    exact Or.inl ⟨rfl, ended⟩
  · right
    rw [parse_tolerated settings tolerated, parse_help]

end Loop

theorem Covers.uncons {word : Word} {words : List Word} {args : List Argument}
    (covers : Covers (word :: words) args) : ∃ rest, args = word.render ++ rest ∧ Covers words rest := by
  rcases covers with rfl | ⟨rest, rfl⟩
  · exact ⟨render words, rfl, Or.inl rfl⟩
  · exact ⟨render words ++ argHelp :: rest, by rw [render_cons, List.append_assoc], Or.inr ⟨rest, rfl⟩⟩

/-- No option that the loop takes starts at the end or at a help option. -/
theorem not_covers_nil {word : Word} (tolerated : word.Tolerated) (args : List Argument) :
    ¬ Covers [] (word.render ++ args) := by
  cases word with
  | setting option value =>
      rintro (ended | ⟨rest, help⟩)
      · cases ended
      · injection help with first _
        have other : option.name ≠ argHelp := by cases option <;> decide
        exact other first
  | target before address =>
      rintro (ended | ⟨rest, help⟩)
      · cases ended
      · injection help with first _
        exact (valueOption_of_address tolerated).1 first
  | dummyFeeder => exact tolerated.elim

/-- The first argument of an option tells the option. -/
theorem documented_of_render {word option : Word} (tolerated : word.Tolerated)
    (documented : option.Documented)
    {args others : List Argument} (same : word.render ++ args = option.render ++ others) :
    word.Documented ∧ args = others := by
  cases word with
  | setting name value =>
      refine ⟨trivial, ?_⟩
      cases option with
      | setting other text =>
          injection same with _ rest
          injection rest
      | target before address =>
          cases (show before = [] from documented)
          injection same with first _
          have found := targetAddress_documented address
          rw [← List.nil_append (argTarget ++ '=' :: address), ← first, targetAddress_name] at found
          cases found
      | dummyFeeder =>
          injection same with first _
          have other : name.name ≠ argDummyFeeder := by cases name <;> decide
          exact absurd first other
  | target before address =>
      have found : targetAddress (before ++ (argTarget ++ '=' :: address)) = some address := tolerated
      cases option with
      | setting other text =>
          injection same with first _
          rw [first, targetAddress_name] at found
          cases found
      | target earlier other =>
          cases (show earlier = [] from documented)
          injection same with first rest
          refine ⟨?_, rest⟩
          rw [List.nil_append] at first
          rw [first, targetAddress_documented] at found
          cases found
          simpa [Word.Documented] using first
      | dummyFeeder =>
          injection same with first _
          rw [first, targetAddress_dummyFeeder] at found
          cases found
  | dummyFeeder => exact tolerated.elim

/-- Arguments that are documented options up to the same place hide no target. -/
theorem documented_of_covers {words options : List Word} {args : List Argument}
    (tolerated : ∀ word ∈ words, word.Tolerated) (documented : ∀ option ∈ options, option.Documented)
    (taken : Covers words args) (listed : Covers options args) : ∀ word ∈ words, word.Documented := by
  induction words generalizing options args with
  | nil => simp
  | cons word words ih =>
      obtain ⟨first, others⟩ := List.forall_mem_cons.mp tolerated
      obtain ⟨rest, rfl, takenRest⟩ := taken.uncons
      cases options with
      | nil => exact absurd listed (not_covers_nil first rest)
      | cons option options =>
          obtain ⟨firstOption, otherOptions⟩ := List.forall_mem_cons.mp documented
          obtain ⟨listedRest, same, covers⟩ := listed.uncons
          obtain ⟨own, rfl⟩ := documented_of_render first firstOption same
          exact List.forall_mem_cons.mpr ⟨own, ih others otherOptions takenRest covers⟩

/-- The loop follows the help text exactly when no dummy feeder is asked for and no target is hidden behind
another text. -/
theorem options_follow_help (brokerAddr brokerTokenFile : Option Argument) (args : List Argument) :
    FollowsHelp (environmentSettings brokerAddr brokerTokenFile) args ↔
      ¬ NamesDummyFeeder args ∧ ¬ HidesTarget args := by
  constructor
  · intro follows
    constructor
    · rintro ⟨words, documented, named, rfl⟩
      have accepted := follows.settings words documented rfl
      rw [parse_dummy _ documented named] at accepted
      cases accepted
    · rintro ⟨words, tolerated, ⟨word, member, hidden⟩, taken⟩
      -- the same arguments cannot be documented, so the loop must reject them
      have undocumented : ∀ options : List Word, (∀ option ∈ options, option.Documented) →
          ¬ Covers options args := fun options documented listed =>
        hidden (documented_of_covers tolerated documented taken listed word member)
      have rejected := follows.rejects
        (fun ⟨options, documented, listed⟩ => undocumented options documented (Or.inl listed))
        (fun ⟨options, documented, listed⟩ => undocumented options documented (Or.inr listed))
      rcases parse_covers (environmentSettings brokerAddr brokerTokenFile) tolerated taken with
        ⟨-, continued⟩ | exited
      · cases continued.symm.trans rejected
      · cases exited.symm.trans rejected
  · rintro ⟨noDummy, nothingHidden⟩
    have settings : ∀ words : List Word, (∀ word ∈ words, word.Documented) → args = render words →
        parse (environmentSettings brokerAddr brokerTokenFile) args =
          .continued (expected (environmentSettings brokerAddr brokerTokenFile) words) := by
      rintro words documented rfl
      have tolerated : ∀ word ∈ words, word.Tolerated := by
        intro word member
        apply tolerated_of_documented (documented word member)
        rintro rfl
        exact noDummy ⟨words, documented, member, rfl⟩
      have ended := parse_tolerated (environmentSettings brokerAddr brokerTokenFile) tolerated []
      rw [List.append_nil, foldl_apply] at ended
      exact ended
    have shown : ∀ words : List Word, (∀ word ∈ words, word.Tolerated) → Covers words args →
        ∀ word ∈ words, word.Documented := by
      intro words tolerated taken word member
      by_contra hidden
      exact nothingHidden ⟨words, tolerated, ⟨word, member, hidden⟩, taken⟩
    refine ⟨⟨?_, ?_⟩, settings, ?_⟩
    · rintro ⟨final, continued⟩
      rcases parse_cases (environmentSettings brokerAddr brokerTokenFile) args with
        exited | ⟨words, tolerated, taken⟩
      · cases continued.symm.trans exited
      · rcases parse_covers (environmentSettings brokerAddr brokerTokenFile) tolerated taken with
          ⟨ended, -⟩ | exited
        · exact ⟨words, shown words tolerated taken, ended⟩
        · cases continued.symm.trans exited
    · rintro ⟨words, documented, listed⟩
      exact ⟨_, settings words documented listed⟩
    · intro undocumented noHelp
      rcases parse_cases (environmentSettings brokerAddr brokerTokenFile) args with
        exited | ⟨words, tolerated, taken⟩
      · exact exited
      · rcases taken with ended | ⟨rest, help⟩
        · exact absurd ⟨words, shown words tolerated (Or.inl ended), ended⟩ undocumented
        · exact absurd ⟨words, shown words tolerated (Or.inr ⟨rest, help⟩), rest, help⟩ noHelp

/-- The documented dummy feeder option is an invalid argument. -/
theorem dummy_feeder_is_rejected :
    ¬ FollowsHelp (environmentSettings none none) ["--dummy-feeder".toList] := by
  intro follows
  have accepted := follows.settings [.dummyFeeder] (List.forall_mem_singleton.mpr trivial) rfl
  cases (parse_dummyFeeder _ []).symm.trans accepted

end VehicleEdge.Adapter.CommandLine
