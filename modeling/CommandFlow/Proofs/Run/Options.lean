import CommandFlow.Proofs.Run.Bindings
import CommandFlow.Proofs.Template.Placement
import Mathlib.Data.Bool.AllAny

/-!
# Options in templates

An option is at hand under its own name with a prefix, and as a variable that the run starts with.

* `Template.lookup_option` : the prefixed name is the option, unless a variable has that very name;
* `Context.initial?_of_option` : the run starts with a variable of the option's name;
  `Run.get?_bindings_of_visit` : which keeps its value until a node writes it;
* `Run.option_readable` : so both placeholders are replaced wherever they stand, if the name is a single word;
  `Run.option_not_readable` shows that a name with a hyphen is not found.
-/

namespace CommandFlow

theorem isSingleWord_ofList_iff (name : List Char) :
    isSingleWord (String.ofList name) = true ↔ name ≠ [] ∧ ∀ c ∈ name, Text.isWord c = true := by
  simp [isSingleWord]

namespace Template

def optionName (name : List Char) : List Char := "options".toList ++ '.' :: name

theorem mem_optionName {name : List Char} {c : Char} (h : c ∈ name) : c ∈ optionName name :=
  List.mem_append_right _ (List.mem_cons_of_mem _ h)

theorem isNameChar_of_mem_optionName {name : List Char} {c : Char} (hc : c ∈ optionName name) :
    isNameChar c = true ∨ c ∈ name := by
  have hhead : ∀ c ∈ "options".toList, isNameChar c = true := List.all_eq_true.mp rfl
  rcases List.mem_append.mp hc with hc | hc
  · exact .inl (hhead c hc)
  rcases List.mem_cons.mp hc with rfl | hc
  · exact .inl (by decide)
  · exact .inr hc

theorem isName_of_isSingleWord {name : List Char} (h : isSingleWord (String.ofList name) = true) : IsName name := by
  obtain ⟨hne, hchars⟩ := (isSingleWord_ofList_iff name).mp h
  exact ⟨hne, fun c hc => by simp [isNameChar, hchars c hc]⟩

theorem isName_optionName {name : List Char} (h : IsName name) : IsName (optionName name) :=
  ⟨List.append_ne_nil_of_right_ne_nil _ (List.cons_ne_nil _ _), fun c hc =>
    (isNameChar_of_mem_optionName hc).elim id (h.chars c)⟩

theorem splitName_optionName (name : List Char) :
    splitName (String.ofList (optionName name)) = ("options", String.ofList name) := by
  have hhead : ∀ c ∈ "options".toList, (c != '.') = true := List.all_eq_true.mp rfl
  have hsplit := takeWhile_append_of_head hhead ('.' :: name) (by rintro c ⟨⟩; decide)
  have htake : (optionName name).takeWhile (· != '.') = "options".toList := hsplit.1
  have hdrop : (optionName name).dropWhile (· != '.') = '.' :: name := hsplit.2
  rw [splitName, String.toList_ofList, htake, hdrop, String.ofList_toList]
  rfl

theorem lookup_option {name : List Char} (hname : name ≠ []) {bindings : Variables}
    (hnone : Entries.get? bindings (String.ofList (optionName name)) = none) (context : Context) :
    lookup (String.ofList (optionName name)) bindings context = Entries.get? context.options (String.ofList name) := by
  have hne : (String.ofList name).isEmpty = false := by simpa using hname
  rw [lookup, hnone]
  dsimp only
  rw [splitName_optionName]
  simp only [contextValue?, hne, Bool.false_eq_true, reduceIte]

end Template

/-- The run starts with a variable of the name of every option: the option, unless a variable of that name is given. -/
theorem Context.initial?_of_option {context : Context} (hnames : (Entries.names context.options).Nodup) {name : String}
    {option : Value} (h : Entries.get? context.options name = some option) :
    context.initial? name = some ((Entries.get? (Entries.ofPairs context.bindings) name).getD option) := by
  rw [initial?, Entries.ofPairs_eq_self hnames, h]
  cases Entries.get? (Entries.ofPairs context.bindings) name <;> rfl

namespace Run

variable {σ : Type} {backend : Backend σ} {graph : Graph} {context : Context} {limit : Int} {generator : Generator}
  {world after : σ} {result : Result}

theorem get?_bindings_of_visit (h : run backend graph context limit generator world = (.ok result, after))
    {before rest : List (Visit σ)} {v : Visit σ}
    (hcourse : course backend graph context limit generator world = before ++ v :: rest) (name : String) :
    Entries.get? v.bindings name = (lastWritten? backend graph context before name).or (context.initial? name) := by
  obtain ⟨first, hinitial, hvisits, -⟩ := run_eq_course h
  rw [bindings_eq_foldl (hvisits.symm.trans hcourse), get?_foldl_writes, hinitial, Context.get?_initialVariables]

/-- At every visit of a run the placeholder for the prefixed name of an option is replaced by the text of the option,
unless a variable has that very name, and the placeholder for the name alone by the text of the variable that the run
starts with, as long as no node has written to it. They may stand anywhere in a text, but the name is to be a single
word: if it has a hyphen, what is written like a placeholder stays as it is. -/
theorem option_readable (h : run backend graph context limit generator world = (.ok result, after))
    {before rest : List (Visit σ)} {v : Visit σ}
    (hcourse : course backend graph context limit generator world = before ++ v :: rest)
    (hnames : (Entries.names context.options).Nodup) {name : List Char} {option : Value}
    (hoption : Entries.get? context.options (String.ofList name) = some option)
    {lead trail : List Char} (hlead : ∀ c ∈ lead, Text.isBlank c = true) (htrail : ∀ c ∈ trail, Text.isBlank c = true)
    (left right : List Char) :
    let render (text : List Char) := Template.interpolate (String.ofList text) v.bindings context
    let written (name : List Char) : List Char := (Template.Placeholder.mk lead name trail).source
    (isSingleWord (String.ofList name) = true →
      (Entries.get? v.bindings (String.ofList (Template.optionName name)) = none →
        render (left ++ (written (Template.optionName name) ++ right)) =
          render left ++ (option.toText ++ render right)) ∧
      (lastWritten? backend graph context before (String.ofList name) = none →
        render (left ++ (written name ++ right)) = render left ++
          (((Entries.get? (Entries.ofPairs context.bindings) (String.ofList name)).getD option).toText ++
            render right))) ∧
    ((∀ c ∈ name, Text.isWord c = true ∨ c = '-') ∧ '-' ∈ name →
      render (left ++ (written (Template.optionName name) ++ right)) =
        render left ++ (String.ofList (written (Template.optionName name)) ++ render right) ∧
      render (left ++ (written name ++ right)) = render left ++ (String.ofList (written name) ++ render right)) := by
  intro render written
  constructor
  · intro hword
    have hname : Template.IsName name := Template.isName_of_isSingleWord hword
    constructor
    · intro hnone
      have hp : (Template.Placeholder.mk lead (Template.optionName name) trail).IsProper :=
        ⟨hlead, Template.isName_optionName hname, htrail⟩
      have hlookup := Template.lookup_option hname.nonempty hnone context
      exact Template.interpolate_append_of_lookup hp (hlookup.trans hoption) left right
    · intro hunwritten
      have hp : (Template.Placeholder.mk lead name trail).IsProper := ⟨hlead, hname, htrail⟩
      refine Template.interpolate_append_of_lookup hp ?_ left right
      rw [Template.lookup, get?_bindings_of_visit h hcourse, hunwritten, Option.none_or,
        Context.initial?_of_option hnames hoption]
  · rintro ⟨hchars, hhyphen⟩
    have hchar : ∀ c ∈ name, Template.isNameChar c = true ∨ c = '-' := fun c hc =>
      (hchars c hc).imp_left fun hword => by simp [Template.isNameChar, hword]
    have hdotted : ∀ c ∈ Template.optionName name, Template.isNameChar c = true ∨ c = '-' := fun c hc =>
      (Template.isNameChar_of_mem_optionName hc).elim .inl (hchar c)
    exact ⟨Template.interpolate_append_of_hyphen hlead htrail hdotted (Template.mem_optionName hhyphen) left
        right _ _,
      Template.interpolate_append_of_hyphen hlead htrail hchar hhyphen left right _ _⟩

/-- A list among the options, at the second visit of a run. -/
theorem option_readable_list :
    let context : Context := { Context.standIn with
      options := [("name", .null), ("user_1", .list [.null, .bool true])], bindings := [("user", .int 0)] }
    let backend := Simulation.backend {}
    let p : Template.Placeholder := ⟨[' '], Template.optionName "user_1".toList, []⟩
    let q : Template.Placeholder := ⟨[' '], "user_1".toList, []⟩
    ∃ result after first v rest, run backend overwriting context 5 (.ofSeed 0) {} = (.ok result, after) ∧
      course backend overwriting context 5 (.ofSeed 0) {} = [first] ++ v :: rest ∧
      (Entries.names context.options).Nodup ∧
      Entries.get? context.options "user_1" = some (.list [.null, .bool true]) ∧
      lastWritten? backend overwriting context [first] "user_1" = none ∧
      Text.isBlank ' ' = true ∧ isSingleWord "user_1" = true ∧
      Entries.get? v.bindings (String.ofList p.name) = none ∧
      Template.interpolate (String.ofList (['\x7b'] ++ (p.source ++ ['!']))) v.bindings context =
        Template.interpolate "\x7b" v.bindings context ++
          ("[None, True]" ++ Template.interpolate "!" v.bindings context) ∧
      Template.interpolate (String.ofList (['\x7b'] ++ (q.source ++ ['!']))) v.bindings context =
        Template.interpolate "\x7b" v.bindings context ++
          ("[None, True]" ++ Template.interpolate "!" v.bindings context) := by
  intro context backend p q
  have hrun := run_eq_walk backend context (.ofSeed 0) {} (show first? overwriting = some _ from rfl)
    (by decide : (1 : Int) ≤ 5)
  have hnames : (Entries.names context.options).Nodup := by decide
  have hblank : ∀ c ∈ [' '], Text.isBlank c = true := List.all_eq_true.mp rfl
  have hnone : ∀ c ∈ ([] : List Char), Text.isBlank c = true := by simp
  have hoption : Entries.get? context.options (String.ofList "user_1".toList) = some (.list [.null, .bool true]) := rfl
  obtain ⟨first, v, rest, hcourse, hunwritten, hbindings⟩ : ∃ first v rest,
      course backend overwriting context 5 (.ofSeed 0) {} = [first] ++ v :: rest ∧
      lastWritten? backend overwriting context [first] (String.ofList "user_1".toList) = none ∧
      v.bindings = context.initialVariables := ⟨_, _, _, rfl, rfl, rfl⟩
  have hdotted : Entries.get? v.bindings (String.ofList p.name) = none := by
    rw [hbindings]
    rfl
  have hword : isSingleWord (String.ofList "user_1".toList) = true := by decide
  have hread := (option_readable hrun hcourse hnames hoption hblank hnone ['\x7b'] ['!']).1 hword
  exact ⟨_, _, first, v, rest, hrun, hcourse, hnames, hoption, hunwritten, by decide, hword, hdotted, hread.1 hdotted,
    hread.2 hunwritten⟩

/-- An option with a hyphen in its name: neither placeholder for it is replaced. -/
theorem option_not_readable :
    let context : Context := { Context.standIn with options := [("my-opt", .text "x")] }
    let p : Template.Placeholder := ⟨[], Template.optionName "my-opt".toList, []⟩
    let q : Template.Placeholder := ⟨[], "my-opt".toList, []⟩
    Entries.get? context.options "my-opt" = some (.text "x") ∧ context.initial? "my-opt" = some (.text "x") ∧
      Template.interpolate (String.ofList p.source) context.initialVariables context = String.ofList p.source ∧
      Template.interpolate (String.ofList q.source) context.initialVariables context = String.ofList q.source := by
  intro context p q
  have hnone : ∀ c ∈ ([] : List Char), Text.isBlank c = true := by simp
  have hverbatim {name : List Char} (hname : ∀ c ∈ name, Template.isNameChar c = true ∨ c = '-')
    (hhyphen : '-' ∈ name) :
      let r : Template.Placeholder := ⟨[], name, []⟩
      Template.interpolate (String.ofList r.source) context.initialVariables context = String.ofList r.source := by
    intro r
    have hempty : Template.interpolate (String.ofList []) context.initialVariables context = String.ofList [] :=
      Template.interpolate_of_not_mem (by simp) _ _
    have hstays := Template.interpolate_append_of_hyphen (p := r) hnone hnone hname hhyphen [] []
      context.initialVariables context
    rw [hempty, List.nil_append, List.append_nil, ← String.ofList_append, ← String.ofList_append, List.append_nil,
      List.nil_append] at hstays
    exact hstays
  exact ⟨rfl, rfl, hverbatim (List.all_iff_forall_prop.mp rfl) (by decide),
    hverbatim (List.all_iff_forall_prop.mp rfl) (by decide)⟩

end Run

end CommandFlow
