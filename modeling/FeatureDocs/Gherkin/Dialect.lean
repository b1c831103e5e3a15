/-!
# Dialects

Feature files are written with the keywords of a natural language, or of a vocabulary that takes
the place of one. A dialect lists the spellings of each keyword in the order in which they are
tried; where one spelling begins another, the order decides.
-/

namespace FeatureDocs.Gherkin

/-- The spellings of the keywords, in the order in which they are tried. The spellings of a step
keyword include the blank or apostrophe behind it. -/
structure Dialect where
  feature : List String
  background : List String
  rule : List String
  scenario : List String
  scenarioOutline : List String
  examples : List String
  /-- Steps that set the scene. -/
  given : List String
  /-- Steps that act. -/
  when : List String
  /-- Steps that check the outcome. -/
  outcome : List String
  /-- Steps that go on like the step before. -/
  conjunction : List String
  /-- Steps that go on in contrast to the step before. -/
  contrast : List String

namespace Dialect

/-- English. -/
def english : Dialect where
  feature := ["Feature", "Business Need", "Ability"]
  background := ["Background"]
  rule := ["Rule"]
  scenario := ["Example", "Scenario"]
  scenarioOutline := ["Scenario Outline", "Scenario Template"]
  examples := ["Examples", "Scenarios"]
  given := ["* ", "Given "]
  when := ["* ", "When "]
  outcome := ["* ", "Then "]
  conjunction := ["* ", "And "]
  contrast := ["* ", "But "]

/-- French. -/
def french : Dialect where
  feature := ["Fonctionnalité"]
  background := ["Contexte"]
  rule := ["Règle"]
  scenario := ["Exemple", "Scénario"]
  scenarioOutline := ["Plan du scénario", "Plan du Scénario"]
  examples := ["Exemples"]
  given := ["* ", "Soit ", "Sachant que ", "Sachant qu'", "Sachant ", "Etant donné que ",
      "Etant donné qu'", "Etant donné ", "Etant donnée ", "Etant donnés ", "Etant données ",
      "Étant donné que ", "Étant donné qu'", "Étant donné ", "Étant donnée ", "Étant donnés ",
      "Étant données "]
  when := ["* ", "Quand ", "Lorsque ", "Lorsqu'"]
  outcome := ["* ", "Alors ", "Donc "]
  conjunction := ["* ", "Et que ", "Et qu'", "Et "]
  contrast := ["* ", "Mais que ", "Mais qu'", "Mais "]

/-- German. -/
def german : Dialect where
  feature := ["Funktionalität", "Funktion"]
  background := ["Grundlage", "Hintergrund", "Voraussetzungen", "Vorbedingungen"]
  rule := ["Rule", "Regel"]
  scenario := ["Beispiel", "Szenario"]
  scenarioOutline := ["Szenariogrundriss", "Szenarien"]
  examples := ["Beispiele"]
  given := ["* ", "Angenommen ", "Gegeben sei ", "Gegeben seien "]
  when := ["* ", "Wenn "]
  outcome := ["* ", "Dann "]
  conjunction := ["* ", "Und "]
  contrast := ["* ", "Aber "]

/-- Spanish. -/
def spanish : Dialect where
  feature := ["Característica", "Necesidad del negocio", "Requisito"]
  background := ["Antecedentes"]
  rule := ["Regla", "Regla de negocio"]
  scenario := ["Ejemplo", "Escenario"]
  scenarioOutline := ["Esquema del escenario"]
  examples := ["Ejemplos"]
  given := ["* ", "Dado ", "Dada ", "Dados ", "Dadas "]
  when := ["* ", "Cuando "]
  outcome := ["* ", "Entonces "]
  conjunction := ["* ", "Y ", "E "]
  contrast := ["* ", "Pero "]

/-- Japanese. -/
def japanese : Dialect where
  feature := ["フィーチャ", "機能"]
  background := ["背景"]
  rule := ["Rule"]
  scenario := ["シナリオ"]
  scenarioOutline := ["シナリオアウトライン", "シナリオテンプレート", "テンプレ", "シナリオテンプレ"]
  examples := ["例", "サンプル"]
  given := ["* ", "前提"]
  when := ["* ", "もし"]
  outcome := ["* ", "ならば"]
  conjunction := ["* ", "かつ"]
  contrast := ["* ", "しかし", "但し", "ただし"]

/-- Russian. -/
def russian : Dialect where
  feature := ["Функция", "Функциональность", "Функционал", "Свойство"]
  background := ["Предыстория", "Контекст"]
  rule := ["Правило"]
  scenario := ["Пример", "Сценарий"]
  scenarioOutline := ["Структура сценария", "Шаблон сценария"]
  examples := ["Примеры"]
  given := ["* ", "Допустим ", "Дано ", "Пусть "]
  when := ["* ", "Когда ", "Если "]
  outcome := ["* ", "То ", "Затем ", "Тогда "]
  conjunction := ["* ", "И ", "К тому же ", "Также "]
  contrast := ["* ", "Но ", "А ", "Иначе "]

/-- Pictures. -/
def emoji : Dialect where
  feature := ["📚"]
  background := ["💤"]
  rule := ["Rule"]
  scenario := ["🥒", "📕"]
  scenarioOutline := ["📖"]
  examples := ["📓"]
  given := ["* ", "😐"]
  when := ["* ", "🎬"]
  outcome := ["* ", "🙏"]
  conjunction := ["* ", "😂"]
  contrast := ["* ", "😔"]

/-- English as spoken at sea. -/
def pirate : Dialect where
  feature := ["Ahoy matey!"]
  background := ["Yo-ho-ho"]
  rule := ["Rule"]
  scenario := ["Heave to"]
  scenarioOutline := ["Shiver me timbers"]
  examples := ["Dead men tell no tales"]
  given := ["* ", "Gangway! "]
  when := ["* ", "Blimey! "]
  outcome := ["* ", "Let go and haul "]
  conjunction := ["* ", "Aye "]
  contrast := ["* ", "Avast! "]

/-- Simplified Chinese. -/
def chinese : Dialect where
  feature := ["功能"]
  background := ["背景"]
  rule := ["Rule"]
  scenario := ["场景", "剧本"]
  scenarioOutline := ["场景大纲", "剧本大纲"]
  examples := ["例子"]
  given := ["* ", "假如", "假设", "假定"]
  when := ["* ", "当"]
  outcome := ["* ", "那么"]
  conjunction := ["* ", "而且", "并且", "同时"]
  contrast := ["* ", "但是"]

/-- English in the terms of proof, with step keywords that need no blank behind them. -/
def formal : Dialect where
  feature := ["Section"]
  background := ["Context"]
  rule := ["Rule"]
  scenario := ["Proof", "Evidence"]
  scenarioOutline := ["Demonstration"]
  examples := ["Examples"]
  given := ["Given"]
  when := ["When"]
  outcome := ["Then"]
  conjunction := ["*", "And"]
  contrast := ["But"]

/-- The dialects by their codes. -/
def byCode : List (String × Dialect) :=
  [("en", english),
   ("fr", french),
   ("de", german),
   ("es", spanish),
   ("ja", japanese),
   ("ru", russian),
   ("em", emoji),
   ("en-pirate", pirate),
   ("zh-CN", chinese),
   ("formal", formal)]

/-- The dialect of a code. -/
def ofCode? (code : String) : Option Dialect := byCode.lookup code

/-- The spellings that begin a step. -/
def step (d : Dialect) : List String :=
  d.given ++ d.when ++ d.outcome ++ d.conjunction ++ d.contrast

/-- The spellings that begin a scenario, with examples or without. -/
def anyScenario (d : Dialect) : List String := d.scenario ++ d.scenarioOutline

/-- What ends the description of a feature. -/
def afterFeature (d : Dialect) : List String := d.background ++ d.rule ++ d.anyScenario

/-- What ends the description of a rule. -/
def afterRule (d : Dialect) : List String := d.background ++ d.anyScenario

/-- What ends the description of a scenario or a background. -/
def afterScenario (d : Dialect) : List String := d.anyScenario ++ d.step

/-- What ends the description of examples. -/
def afterExamples (d : Dialect) : List String := d.afterScenario ++ ["|"]

end Dialect

end FeatureDocs.Gherkin
