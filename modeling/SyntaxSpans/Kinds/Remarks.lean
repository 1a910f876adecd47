import SyntaxSpans.Kinds.Registry

set_option autoImplicit false

namespace SyntaxSpans

inductive Remark where
  | missing (language name : String)
  | missingComment (language name : String)
  | claimedAgain (language name : String) (first later : Category)
  | built (language : String) (declarations comments : Nat)

namespace Remark

def message : Remark → String
  | missing language name => s!"{language} grammar has no '{name}' kind"
  | missingComment language name => s!"{language} grammar has no '{name}' comment kind"
  | claimedAgain language name first later =>
      s!"{language} kind '{name}' already maps to {first.name}, ignoring {later.name}"
  | built language declarations comments =>
      s!"Built {language} kind registry: {declarations} declaration kinds, {comments} comment kinds"

def isWarning : Remark → Bool
  | missing .. | missingComment .. => true
  | claimedAgain .. | built .. => false

end Remark

namespace Registry

/-- Remarks on the numbers of one name, given the claims before them. -/
private def remarkIds (table : Table) (category : Category) (name : String) (claims : List Claim) :
    List KindId → List Remark
  | [] => []
  | id :: rest =>
      match claims.lookup id with
      | some first =>
          .claimedAgain table.language name first category ::
            remarkIds table category name claims rest
      | none => remarkIds table category name ((id, category) :: claims) rest

private def remarkDeclarations (grammar : Grammar) (table : Table) (claims : List Claim) :
    List (Category × String) → List Remark
  | [] => []
  | (category, name) :: rest =>
      let ids := grammar.idsOf name
      let absent := if ids.isEmpty then [.missing table.language name] else []
      let known := firstClaims [] (claims ++ ids.map fun id => (id, category))
      absent ++ remarkIds table category name claims ids ++
        remarkDeclarations grammar table known rest

def remarks (grammar : Grammar) (table : Table) : List Remark :=
  let registry := build grammar table
  let absent (names : List String) := names.filter fun name => (grammar.idsOf name).isEmpty
  remarkDeclarations grammar table [] table.declarations ++
    (absent table.comments).map (.missingComment table.language) ++
    (absent table.statementComments).map (.missing table.language) ++
    [.built table.language registry.declared.length registry.commentCount]

end Registry

end SyntaxSpans
