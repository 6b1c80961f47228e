import FormEngine.Page.Markup

set_option autoImplicit false

namespace FormEngine

def styleRules : List String :=
  ["body \x7b background: #ffffff; color: #1f2937; font-family: 'Inter', sans-serif; margin: 0; padding: 1.5rem; \x7d",
   ".form-body \x7b max-width: 48rem; margin: 0 auto; \x7d",
   ".field \x7b margin-bottom: 1rem; display: flex; flex-direction: column; gap: 0.25rem; \x7d",
   ".field input, .field select, .field textarea \x7b background: rgb(255, 255, 255); border: 1px solid #d1d5db; border-radius: 4px; padding: 0.4rem; \x7d",
   ".error \x7b color: #b91c1c; font-size: 0.85rem; margin: 0; \x7d",
   "fieldset.group \x7b border: 1px solid #e5e7eb; border-radius: 6px; margin-bottom: 1rem; \x7d",
   "table \x7b width: 100%; border-collapse: collapse; margin-bottom: 1.25rem; \x7d",
   "td, th \x7b border: 1px solid #e5e7eb; padding: 0.5rem; text-align: left; \x7d",
   ".table-preview td \x7b color: #9ca3af; \x7d",
   ".canvas-item \x7b border: 1px dashed #d1d5db; padding: 0.5rem; margin-bottom: 0.5rem; \x7d",
   ".canvas-item.selected \x7b border-color: #6366f1; \x7d"]

def styleSheet : String := "\n" ++ String.join (styleRules.map (· ++ "\n"))

def page (title : String) (content : List Markup) : String :=
  Markup.document
    (.element .html []
      [.element .head [] [.element .title [] [.text title], .style styleSheet],
       .element .body [] [.element .div [.value .classes "form-body"] content]])

end FormEngine
